import MockCluster.Proofs.Document.Listings
import MockCluster.Proofs.Index
import MockCluster.Proofs.Repair.Duplicates
import MockCluster.Repair.Report

/-!
The findings of a validation taken apart by their codes, and what they depend on: the tasks, the
groupings and which records there are.
-/

namespace MockCluster

namespace Findings

variable {findings : Findings} {code : FindingCode}

theorem withCode_append (first second : Findings) (code : FindingCode) :
    withCode (first ++ second) code = first.withCode code ++ second.withCode code :=
  List.filter_append first second

theorem withCode_flatMap {α : Type} (f : α → Findings) (items : List α) (code : FindingCode) :
    withCode (items.flatMap f) code = items.flatMap fun item => (f item).withCode code :=
  List.filter_flatMap

theorem withCode_of_forall (h : ∀ finding ∈ findings, finding.code = code) :
    findings.withCode code = findings :=
  List.filter_eq_self.2 fun finding hmem => decide_eq_true (h finding hmem)

theorem withCode_of_forall_ne (h : ∀ finding ∈ findings, finding.code ≠ code) :
    findings.withCode code = [] :=
  List.filter_eq_nil_iff.2 fun finding hmem heq => h finding hmem (of_decide_eq_true heq)

theorem withCode_eq {own : FindingCode} (h : ∀ finding ∈ findings, finding.code = own)
    (code : FindingCode) : findings.withCode code = if own = code then findings else [] := by
  split
  next heq => exact withCode_of_forall fun finding hmem => (h finding hmem).trans heq
  next hne =>
    exact withCode_of_forall_ne fun finding hmem heq => hne ((h finding hmem).symm.trans heq)

theorem withCode_map {α : Type} (own : FindingCode) (f : α → Finding)
    (h : ∀ item, (f item).code = own) (items : List α) (code : FindingCode) :
    withCode (items.map f) code = if own = code then items.map f else [] :=
  withCode_eq (List.forall_mem_map.2 fun item _ => h item) code

theorem warnings_append (first second : Findings) :
    warnings (first ++ second) = first.warnings ++ second.warnings :=
  List.filter_append first second

/-- What a run reports of its own work is no warning. -/
theorem warnings_map_eq_nil {α : Type} {f : α → Finding} (h : ∀ item, (f item).severity = .info)
    (items : List α) : warnings (items.map f) = [] := by
  apply List.filter_eq_nil_iff.2
  intro finding hmem
  obtain ⟨item, _, rfl⟩ := List.mem_map.1 hmem
  rw [h item]
  decide

theorem mem_withCode {finding : Finding} :
    finding ∈ findings.withCode code ↔ finding ∈ findings ∧ finding.code = code := by
  rw [withCode, List.mem_filter, decide_eq_true_iff]

end Findings

namespace Finding

variable (task owner target key : String)

theorem dangling_service : dangling task .danglingServiceRef target =
    { subject := task
      code := .danglingServiceRef
      text := "ServiceID '" ++ target ++ "' does not resolve" } := rfl

theorem dangling_node : dangling task .danglingNodeRef target =
    { subject := task
      code := .danglingNodeRef
      text := "NodeID '" ++ target ++ "' does not resolve" } := rfl

theorem danglingKey_service : danglingKey owner .danglingGroupingServiceKey key =
    { subject := owner
      code := .danglingGroupingServiceKey
      text := "Grouping key '" ++ key ++ "' names an unknown service"
      context := ["per-service task grouping of node " ++ owner] } := by
  simp [danglingKey, String.append_assoc]

theorem danglingKey_node : danglingKey owner .danglingGroupingNodeKey key =
    { subject := owner
      code := .danglingGroupingNodeKey
      text := "Grouping key '" ++ key ++ "' names an unknown node"
      context := ["per-node task grouping of service " ++ owner] } := by
  simp [danglingKey, String.append_assoc]

end Finding

/-- What is reported of each task, said of the task that has its place. -/
def Findings.reportedAt (report : Task → Findings) (before after : List Task) : Findings :=
  (List.zipWith (fun task successor =>
    (report task).map fun finding => { finding with subject := successor.id }) before after).flatten

/-- Findings about a task, of one code, that depend on its ID by their subject only. -/
structure Addressed (code : FindingCode) (report : Task → Findings) : Prop where
  about : ∀ task, ∀ finding ∈ report task, finding.subject = task.id ∧ finding.code = code
  withId : ∀ task id, report { task with id := id } =
    (report task).map fun finding => { finding with subject := id }

namespace Addressed

variable {code : FindingCode} {report : Task → Findings} (h : Addressed code report)
  {renames : List Rename}

include h

theorem report_of_renamedBy {before after : Task}
    (hrenamed : Duplicates.RenamedBy renames before after) :
    report after = (report before).map fun finding => { finding with subject := after.id } := by
  rcases hrenamed with rfl | ⟨rename, _, _, rfl⟩
  · exact h.withId after after.id
  · exact h.withId before rename.new

theorem flatMap_eq_reportedAt {before after : List Task}
    (hrenamed : List.Forall₂ (Duplicates.RenamedBy renames) before after) :
    after.flatMap report = Findings.reportedAt report before after := by
  induction hrenamed with
  | nil => rfl
  | cons hfirst _ ih =>
      rw [List.flatMap_cons, ih, h.report_of_renamedBy hfirst]
      rfl

end Addressed

namespace Store

theorem addressed_serviceRefFindings (store : Store) :
    Addressed .danglingServiceRef store.serviceRefFindings where
  about task finding hmem := by
    unfold serviceRefFindings at hmem
    split at hmem
    · split at hmem
      · cases hmem
      · cases List.mem_singleton.1 hmem
        exact ⟨rfl, rfl⟩
    · cases List.mem_singleton.1 hmem
      exact ⟨rfl, rfl⟩
  withId task id := by
    unfold serviceRefFindings
    simp only
    split
    · split <;> rfl
    · rfl

theorem addressed_nodeRefFindings (store : Store) :
    Addressed .danglingNodeRef store.nodeRefFindings where
  about task finding hmem := by
    unfold nodeRefFindings at hmem
    split at hmem
    · split at hmem
      · cases hmem
      · cases List.mem_singleton.1 hmem
        exact ⟨rfl, rfl⟩
    · cases hmem
  withId task id := by
    unfold nodeRefFindings
    simp only
    split
    · split <;> rfl
    · rfl

variable (store : Store)

/-- What a validation reports under each code. -/
def findingsOf (store : Store) : FindingCode → Findings
  | .duplicateNodeId => (store.index.duplicates .node).map Finding.duplicateNode
  | .duplicateServiceId => (store.index.duplicates .service).map Finding.duplicateService
  | .danglingServiceRef => store.doc.tasks.flatMap store.serviceRefFindings
  | .danglingNodeRef => store.doc.tasks.flatMap store.nodeRefFindings
  | .danglingGroupingServiceKey =>
    store.doc.allNodes.flatMap fun node =>
      (store.danglingKeys .service node.tasks).map
        (Finding.danglingKey node.id .danglingGroupingServiceKey)
  | .danglingGroupingNodeKey =>
    store.doc.serviceGroupings.flatMap fun (id, grouping) =>
      (store.danglingKeys .node grouping).map (Finding.danglingKey id .danglingGroupingNodeKey)
  | _ => []

theorem withCode_referenceFindings (code : FindingCode) :
    store.referenceFindings.withCode code = store.findingsOf code := by
  have hnodes := Findings.withCode_map .duplicateNodeId Finding.duplicateNode fun _ => rfl
  have hservices :=
    Findings.withCode_map .duplicateServiceId Finding.duplicateService fun _ => rfl
  have hserviceRefs task := Findings.withCode_eq (fun finding hmem =>
    (store.addressed_serviceRefFindings.about task finding hmem).2) code
  have hnodeRefs task := Findings.withCode_eq (fun finding hmem =>
    (store.addressed_nodeRefFindings.about task finding hmem).2) code
  have hserviceKeys owner := Findings.withCode_map .danglingGroupingServiceKey
    (Finding.danglingKey owner .danglingGroupingServiceKey) fun _ => rfl
  have hnodeKeys owner := Findings.withCode_map .danglingGroupingNodeKey
    (Finding.danglingKey owner .danglingGroupingNodeKey) fun _ => rfl
  have hnothing {α : Type} (items : List α) : items.flatMap (fun _ => ([] : Findings)) = [] :=
    List.flatMap_eq_nil_iff.2 fun _ _ => rfl
  simp only [referenceFindings, Findings.withCode_append, Findings.withCode_flatMap, hnodes,
    hservices, hserviceRefs, hnodeRefs, hserviceKeys, hnodeKeys]
  cases code <;> simp [findingsOf, hnothing]

/-- What a repair reports under each code: tasks and services that it added, node IDs that it
replaced, each with the number of positions that had it, and what a validation finds afterwards. -/
def repairFindingsOf (store : Store) (tasks : List Task) (stubs : List String)
    (renames : List Rename) (positions : Rename → Nat) : FindingCode → Findings
  | .taskBackfilled => tasks.map fun task =>
    { subject := task.id
      code := .taskBackfilled
      text := "Task found only in a grouping was added to the task list" }
  | .serviceStubBackfilled => stubs.map fun id =>
    { subject := id
      code := .serviceStubBackfilled
      text := "Service listed but missing from services; stub record added" }
  | .collisionDetected => renames.map fun rename =>
    { subject := rename.old
      code := .collisionDetected
      text := "Node ID '" ++ rename.old ++ "' is also a service ID; node renamed to '" ++
        rename.new ++ "'"
      context := [toString (positions rename) ++ " node-ID position(s) rewritten"] }
  | code => store.findingsOf code

theorem withCode_repairFindings (tasks : List Task) (stubs : List String) (renames : List Rename)
    (positions : Rename → Nat) (code : FindingCode) :
    Findings.withCode (tasks.map Finding.backfilled ++ stubs.map Finding.stubAdded ++
        renames.map (fun rename => Finding.collision rename (positions rename)) ++
        store.referenceFindings) code =
      store.repairFindingsOf tasks stubs renames positions code := by
  have hbackfilled := Findings.withCode_map .taskBackfilled Finding.backfilled fun _ => rfl
  have hstubs := Findings.withCode_map .serviceStubBackfilled Finding.stubAdded fun _ => rfl
  have hcollisions := Findings.withCode_map .collisionDetected
    (fun rename => Finding.collision rename (positions rename)) fun _ => rfl
  simp only [Findings.withCode_append, hbackfilled, hstubs, hcollisions, withCode_referenceFindings]
  cases code <;> simp [repairFindingsOf, findingsOf, Finding.backfilled, Finding.stubAdded,
    Finding.collision]

/-- A validation reports nothing but warnings. -/
theorem warnings_referenceFindings :
    Findings.warnings store.referenceFindings = store.referenceFindings := by
  apply List.filter_eq_self.2
  intro finding hmem
  have hcode : finding ∈ store.findingsOf finding.code := by
    rw [← withCode_referenceFindings]
    exact Findings.mem_withCode.2 ⟨hmem, rfl⟩
  rw [Finding.severity]
  revert hcode
  cases finding.code <;>
    first | exact fun _ => rfl | exact fun hnone => (List.not_mem_nil hnone).elim

/-- Of what a repair reports, the warnings are the validation. -/
theorem warnings_repair (settings : RepairSettings) :
    (store.repair settings).2.findings.warnings =
      (store.repair settings).1.referenceFindings := by
  have hbackfilled := Findings.warnings_map_eq_nil (f := Finding.backfilled) fun _ => rfl
  have hstubs := Findings.warnings_map_eq_nil (f := Finding.stubAdded) fun _ => rfl
  have hcollisions (positions : Rename → Nat) := Findings.warnings_map_eq_nil
    (f := fun rename => Finding.collision rename (positions rename)) fun _ => rfl
  simp only [repair, Findings.warnings_append, hbackfilled, hstubs, hcollisions, List.nil_append]
  exact warnings_referenceFindings _

theorem mem_findings_repair_iff {settings : RepairSettings} {finding : Finding}
    (h : finding.severity = .warning) :
    finding ∈ (store.repair settings).2.findings ↔
      finding ∈ (store.repair settings).1.referenceFindings := by
  rw [← warnings_repair, Findings.warnings, Findings.ofSeverity, List.mem_filter, h]
  simp

section SameListings

variable {before after : Document} (h : Document.SameListings before after) (source : String)

include h

theorem contains_node_of_sameListings :
    (of source after).contains .node = (of source before).contains .node := by
  funext id
  rw [Bool.eq_iff_iff, contains_node_of, contains_node_of, h.nodeIds_eq]

theorem contains_service_of_sameListings :
    (of source after).contains .service = (of source before).contains .service := by
  funext id
  rw [Bool.eq_iff_iff, contains_service_of, contains_service_of, h.serviceIds_eq]

theorem serviceRefFindings_of_sameListings :
    (of source after).serviceRefFindings = (of source before).serviceRefFindings := by
  funext task
  unfold serviceRefFindings
  rw [contains_service_of_sameListings h]

theorem nodeRefFindings_of_sameListings :
    (of source after).nodeRefFindings = (of source before).nodeRefFindings := by
  funext task
  unfold nodeRefFindings
  rw [contains_node_of_sameListings h]

theorem findingsOf_duplicates_of_sameListings :
    (of source after).findingsOf .duplicateNodeId = (of source before).findingsOf .duplicateNodeId ∧
      (of source after).findingsOf .duplicateServiceId =
        (of source before).findingsOf .duplicateServiceId := by
  have hnodes : after.nodes.map Node.id = before.nodes.map Node.id := (List.cons.inj h.nodes).1
  constructor
  · change (repeatedIds (after.nodes.map Node.id)).map _ = (repeatedIds _).map _
    rw [hnodes]
  · change (repeatedIds after.serviceIds).map _ = (repeatedIds _).map _
    rw [h.serviceIds_eq]

end SameListings

end Store

end MockCluster
