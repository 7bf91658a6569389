import MockCluster.Proofs.Lists
import MockCluster.Proofs.Repair.Findings
import MockCluster.Proofs.Repair.Settled

/-!
The warnings of a repair are the violations in the document it leaves: one for each reference that
leads nowhere, and one for each ID that is listed more than once.

Violations are read off the lists of the document.  The checks look them up in an index, which has
to be that of the document as it is then.
-/

namespace MockCluster

namespace Task

/-- The task names no service that has a record. -/
def LacksService (doc : Document) (task : Task) : Prop :=
  ∀ service ∈ task.serviceId, service = "" ∨ service ∉ doc.serviceIds

/-- The task names a node that no listing has. -/
def StrandedIn (doc : Document) (task : Task) : Prop :=
  ∃ node ∈ task.nodeId, node ≠ "" ∧ node ∉ doc.nodeIds

instance (doc : Document) : DecidablePred (LacksService doc) := fun task =>
  inferInstanceAs (Decidable (∀ service ∈ task.serviceId, _))

instance (doc : Document) : DecidablePred (StrandedIn doc) := fun task =>
  inferInstanceAs (Decidable (∃ node ∈ task.nodeId, _))

def serviceRefFinding (task : Task) : Finding :=
  match task.serviceId.filter (· ≠ "") with
  | some service =>
    { subject := task.id
      code := .danglingServiceRef
      text := "ServiceID '" ++ service ++ "' does not resolve" }
  | none => { subject := task.id, code := .danglingServiceRef, text := "Task has no ServiceID" }

def nodeRefFinding (task : Task) : Finding where
  subject := task.id
  code := .danglingNodeRef
  text := "NodeID '" ++ task.nodeId.getD "" ++ "' does not resolve"

end Task

namespace Grouping

/-- The key should name one of some records, and does not. -/
def StrayKey (ids : List String) (key : String) : Prop :=
  key ≠ unassignedKey ∧ (key = "" ∨ key ∉ ids)

instance (ids : List String) : DecidablePred (StrayKey ids) := fun key =>
  inferInstanceAs (Decidable (key ≠ unassignedKey ∧ _))

end Grouping

namespace Document

/-- The keys under which node records group their tasks, each with the ID of its record. -/
def nodeGroupingKeys (doc : Document) : List (String × String) :=
  doc.allNodes.flatMap fun node => (node.tasks.getD ∅).keys.map (Prod.mk node.id)

/-- The same for services and their summaries. -/
def serviceGroupingKeys (doc : Document) : List (String × String) :=
  doc.serviceGroupings.flatMap fun (id, grouping) => (grouping.getD ∅).keys.map (Prod.mk id)

end Document

/-- The findings name every violation in a document, code by code: each task, each key of each
grouping and each repeated ID once, in the order of the document. -/
structure Findings.NameViolations (findings : Findings) (doc : Document) : Prop where
  serviceRefs : findings.withCode .danglingServiceRef =
    (doc.tasks.filter (Task.LacksService doc)).map Task.serviceRefFinding
  nodeRefs : findings.withCode .danglingNodeRef =
    (doc.tasks.filter (Task.StrandedIn doc)).map Task.nodeRefFinding
  serviceKeys : findings.withCode .danglingGroupingServiceKey =
    (doc.nodeGroupingKeys.filter fun (_, key) => Grouping.StrayKey doc.serviceIds key).map
      fun (owner, key) =>
        { subject := owner
          code := .danglingGroupingServiceKey
          text := "Grouping key '" ++ key ++ "' names an unknown service"
          context := ["per-service task grouping of node " ++ owner] }
  nodeKeys : findings.withCode .danglingGroupingNodeKey =
    (doc.serviceGroupingKeys.filter fun (_, key) => Grouping.StrayKey doc.nodeIds key).map
      fun (owner, key) =>
        { subject := owner
          code := .danglingGroupingNodeKey
          text := "Grouping key '" ++ key ++ "' names an unknown node"
          context := ["per-node task grouping of service " ++ owner] }
  repeatedNodes : ∃ ids : List String, ids.Nodup ∧
    (∀ id, id ∈ ids ↔ id ≠ "" ∧ 2 ≤ (doc.nodes.map Node.id).count id) ∧
      findings.withCode .duplicateNodeId = ids.map fun id =>
        { subject := id
          code := .duplicateNodeId
          text := "Node ID '" ++ id ++ "' is listed more than once" }
  repeatedServices : ∃ ids : List String, ids.Nodup ∧
    (∀ id, id ∈ ids ↔ id ≠ "" ∧ 2 ≤ doc.serviceIds.count id) ∧
      findings.withCode .duplicateServiceId = ids.map fun id =>
        { subject := id
          code := .duplicateServiceId
          text := "Service ID '" ++ id ++ "' is listed more than once" }
  nothingElse : ∀ finding ∈ findings, finding.code ∈
    [FindingCode.danglingServiceRef, .danglingNodeRef, .danglingGroupingServiceKey,
      .danglingGroupingNodeKey, .duplicateNodeId, .duplicateServiceId]

namespace Store

variable (source : String) (doc : Document)

theorem serviceRefFindings_of (task : Task) :
    (of source doc).serviceRefFindings task =
      if task.LacksService doc then [task.serviceRefFinding] else [] := by
  cases hnamed : task.serviceId.filter (· ≠ "") with
  | none =>
      have hlacks : task.LacksService doc := fun service hmem =>
        .inl (by simpa using Option.filter_eq_none_iff.1 hnamed service hmem)
      simp only [serviceRefFindings, Task.serviceRefFinding, hnamed, if_pos hlacks]
  | some service =>
      obtain ⟨hservice, hne⟩ := Option.filter_eq_some_iff.1 hnamed
      have hne : service ≠ "" := of_decide_eq_true hne
      have hrecorded : (of source doc).contains .service service = true ↔
          service ∈ doc.serviceIds := contains_service_of.trans (and_iff_left hne)
      have hlacks : task.LacksService doc ↔ service ∉ doc.serviceIds := by
        simp [Task.LacksService, hservice, hne]
      simp only [serviceRefFindings, Task.serviceRefFinding, hnamed, hrecorded, hlacks, ite_not,
        Finding.dangling_service]

theorem nodeRefFindings_of (task : Task) :
    (of source doc).nodeRefFindings task =
      if task.StrandedIn doc then [task.nodeRefFinding] else [] := by
  cases hnamed : task.nodeId.filter (· ≠ "") with
  | none =>
      have hplaced : ¬ task.StrandedIn doc := by
        rintro ⟨node, hmem, hne, _⟩
        exact hne (by simpa using Option.filter_eq_none_iff.1 hnamed node hmem)
      simp only [nodeRefFindings, hnamed, if_neg hplaced]
  | some node =>
      obtain ⟨hnode, hne⟩ := Option.filter_eq_some_iff.1 hnamed
      have hne : node ≠ "" := of_decide_eq_true hne
      have hlisted : (of source doc).contains .node node = true ↔ node ∈ doc.nodeIds :=
        contains_node_of.trans (and_iff_left hne)
      have hstranded : task.StrandedIn doc ↔ node ∉ doc.nodeIds := by
        simp [Task.StrandedIn, hnode, hne]
      have hfinding : task.nodeRefFinding = .dangling task.id .danglingNodeRef node := by
        rw [Task.nodeRefFinding, hnode, Option.getD_some, Finding.dangling_node]
      simp only [nodeRefFindings, hnamed, hlisted, hstranded, hfinding, ite_not]

/-- Of the keys that stand with a record those are reported which lead to no record themselves. -/
theorem map_danglingKeys {role : Role} {ids : List String}
    (hcontains : ∀ id, (of source doc).contains role id = true ↔ id ∈ ids ∧ id ≠ "")
    (owner : String) (code : FindingCode) (grouping : Option Grouping) :
    ((of source doc).danglingKeys role grouping).map (Finding.danglingKey owner code) =
      (((grouping.getD ∅).keys.map (Prod.mk owner)).filter fun (_, key) =>
        Grouping.StrayKey ids key).map fun (owner, key) => Finding.danglingKey owner code key := by
  have hstray : (fun key => decide (key ≠ Grouping.unassignedKey) &&
      !(of source doc).contains role key) = fun key => decide (Grouping.StrayKey ids key) := by
    funext key
    rw [Bool.eq_iff_iff, Bool.and_eq_true, decide_eq_true_iff, decide_eq_true_iff,
      Bool.not_eq_true', ← Bool.not_eq_true, hcontains]
    exact and_congr_right fun _ => by tauto
  rw [danglingKeys, hstray, List.filter_map, List.map_map]
  rfl

/-- A validation with an index of the document as it is names every violation. -/
theorem nameViolations_referenceFindings :
    Findings.NameViolations (of source doc).referenceFindings doc where
  serviceRefs := by
    rw [withCode_referenceFindings, findingsOf, funext (serviceRefFindings_of source doc)]
    exact flatMap_ite_singleton (Task.LacksService doc) _ _
  nodeRefs := by
    rw [withCode_referenceFindings, findingsOf, funext (nodeRefFindings_of source doc)]
    exact flatMap_ite_singleton (Task.StrandedIn doc) _ _
  serviceKeys := by
    simp only [← Finding.danglingKey_service]
    rw [withCode_referenceFindings, findingsOf, Document.nodeGroupingKeys, List.filter_flatMap,
      List.map_flatMap]
    exact congrArg (doc.allNodes.flatMap ·) <| funext fun node =>
      map_danglingKeys source doc (fun _ => contains_service_of) node.id _ node.tasks
  nodeKeys := by
    simp only [← Finding.danglingKey_node]
    rw [withCode_referenceFindings, findingsOf, Document.serviceGroupingKeys, List.filter_flatMap,
      List.map_flatMap]
    exact congrArg (doc.serviceGroupings.flatMap ·) <| funext fun held =>
      map_danglingKeys source doc (fun _ => contains_node_of) held.1 _ held.2
  repeatedNodes := by
    refine ⟨secondSeen (doc.nodes.map Node.id), nodup_secondSeen _, fun _ => mem_secondSeen, ?_⟩
    rw [withCode_referenceFindings, ← (Index.describes_of doc).repeatedNodes]
    rfl
  repeatedServices := by
    refine ⟨secondSeen doc.serviceIds, nodup_secondSeen _, fun _ => mem_secondSeen, ?_⟩
    rw [withCode_referenceFindings, ← (Index.describes_of doc).repeatedServices]
    rfl
  nothingElse := by
    intro finding hmem
    have hcode : finding ∈ (of source doc).findingsOf finding.code := by
      rw [← withCode_referenceFindings]
      exact Findings.mem_withCode.2 ⟨hmem, rfl⟩
    revert hcode
    cases finding.code <;>
      first | exact fun _ => by decide | exact fun hnone => (List.not_mem_nil hnone).elim

end Store

/-- Neither a violation is missed nor is there a false alarm.  Tasks are listed, services recorded
and nodes renamed before the check, and its index is that of the document as it is then. -/
theorem warnings_repair_name_violations (source : String) (doc : Document)
    (settings : RepairSettings) :
    let outcome := (Store.of source doc).repair settings
    outcome.2.findings.warnings.NameViolations outcome.1.doc := by
  intro outcome
  have hstore : outcome.1 = Store.of source (doc.repaired settings) :=
    Store.fst_repair_of source doc settings
  have hwarnings : outcome.2.findings.warnings = outcome.1.referenceFindings :=
    Store.warnings_repair _ settings
  rw [hwarnings, hstore]
  exact Store.nameViolations_referenceFindings source _

end MockCluster
