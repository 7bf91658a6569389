import MockCluster.Proofs.Document.Rekey
import MockCluster.Proofs.InPlace
import MockCluster.Proofs.Repair.Findings
import MockCluster.Proofs.Repair.Replacement

/-!
What a repair makes of the references to nodes: those to a record follow it to its new ID, and those
to no record stay as they are.

A replacement is free among the IDs of nodes and all that names a service.  It may still be an ID
that some reference carries, and then this reference leads to the record from there on.
-/

namespace MockCluster

namespace Grouping

/-- The references of a grouping: the key each is filed under, its task and its node. -/
def nodeRefs (held : Option Grouping) : List (String × String × Option String) :=
  (Grouping.filings (held.getD ∅)).map fun filing => (filing.1, filing.2.id, filing.2.nodeId)

/-- The references of a node's grouping stay in their places and name their nodes by new IDs. -/
def FollowUnderNode (f : String → String) (before after : Option Grouping) : Prop :=
  nodeRefs after = (nodeRefs before).map fun (key, id, nodeId) => (key, id, nodeId.map f)

/-- The references of a service's grouping and its keys name their nodes by new IDs.  References may
change places, for buckets may have been joined. -/
structure FollowUnderService (f : String → String) (before after : Option Grouping) : Prop where
  refs : (nodeRefs after).Perm
    ((nodeRefs before).map fun (key, id, nodeId) => (f key, id, nodeId.map f))
  mem_keys_iff : ∀ key,
    key ∈ (after.getD ∅).keys ↔ ∃ former ∈ (before.getD ∅).keys, f former = key

end Grouping

namespace Substitution

variable (s : Substitution)

theorem followUnderNode (held : Option Grouping) :
    Grouping.FollowUnderNode s.nodeId held (held.map s.nodeGrouping) := by
  cases held with
  | none => rfl
  | some grouping =>
      simp only [Grouping.FollowUnderNode, Grouping.nodeRefs, Option.map_some, Option.getD_some,
        nodeGrouping, Grouping.filings_map, List.map_map]
      rfl

theorem followUnderService (hstable : ∀ id, s.nodeId (s.nodeId id) = s.nodeId id)
    (held : Option Grouping) :
    Grouping.FollowUnderService s.nodeId held (held.map s.serviceGrouping) := by
  cases held with
  | none => exact ⟨List.Perm.refl _, by simp⟩
  | some grouping =>
      refine ⟨?_, fun key => mem_keys_serviceGrouping hstable⟩
      have hfilings := (filings_serviceGrouping_perm hstable grouping).map
        fun filing => (filing.1, filing.2.id, filing.2.nodeId)
      rw [List.map_map] at hfilings
      simp only [Grouping.nodeRefs, Option.map_some, Option.getD_some, List.map_map]
      exact hfilings

end Substitution

namespace Document

/-- Wherever a node is named, it is named by its new ID afterwards. -/
structure NodeRefsFollow (f : String → String) (before after : Document) : Prop where
  tasks : InPlace (fun task task' => task'.id = task.id ∧ task'.nodeId = task.nodeId.map f)
    before.tasks after.tasks
  unassigned : InPlace (fun ref ref' => ref'.id = ref.id ∧ ref'.nodeId = ref.nodeId.map f)
    before.horizontal.unassigned after.horizontal.unassigned
  nodes : ∀ listing, InPlace
    (fun node node' => node'.id = f node.id ∧ Grouping.FollowUnderNode f node.tasks node'.tasks)
    (before.listing listing) (after.listing listing)
  services : InPlace
    (fun service service' =>
      service'.id = service.id ∧ Grouping.FollowUnderService f service.tasks service'.tasks)
    before.services after.services
  horizontal : InPlace
    (fun summary summary' =>
      summary'.id = summary.id ∧ Grouping.FollowUnderService f summary.tasks summary'.tasks)
    before.horizontal.services after.horizontal.services
  vertical : InPlace
    (fun summary summary' =>
      summary'.id = summary.id ∧ Grouping.FollowUnderService f summary.tasks summary'.tasks)
    before.vertical.services after.vertical.services

theorem nodeRefsFollow_document (s : Substitution)
    (hstable : ∀ id, s.nodeId (s.nodeId id) = s.nodeId id) (doc : Document) :
    NodeRefsFollow s.nodeId doc (s.document doc) where
  tasks := .of_map (fun _ => ⟨rfl, rfl⟩) _
  unassigned := .of_map (fun _ => ⟨rfl, rfl⟩) _
  nodes listing := by
    rw [Substitution.listing_document]
    exact .of_map (fun node => ⟨rfl, s.followUnderNode node.tasks⟩) _
  services := .of_map (fun service => ⟨rfl, s.followUnderService hstable service.tasks⟩) _
  horizontal := .of_map (fun summary => ⟨rfl, s.followUnderService hstable summary.tasks⟩) _
  vertical := .of_map (fun summary => ⟨rfl, s.followUnderService hstable summary.tasks⟩) _

variable (settings : RepairSettings) (doc : Document)

theorem nodeRefsFollow_renamed :
    NodeRefsFollow (Renames.target doc.renames) doc (doc.renamed settings) := by
  rw [renamed_eq]
  exact nodeRefsFollow_document
    (.ofNodeIds (Renames.target doc.renames) settings.renamesInUntyped) target_renames_target doc

/-- The tasks and the services that a repair adds come after those that were there. -/
theorem NodeRefsFollow.of_recorded {f : String → String} {after : Document}
    (h : NodeRefsFollow f (doc.backfill.recorded settings) after) :
    NodeRefsFollow f doc after := by
  unfold recorded at h
  split at h
  next => exact ⟨h.tasks.of_append, h.unassigned, h.nodes, h.services.of_append, h.horizontal,
    h.vertical⟩
  next => exact ⟨h.tasks.of_append, h.unassigned, h.nodes, h.services, h.horizontal, h.vertical⟩

theorem nodeIds_recorded : (doc.backfill.recorded settings).nodeIds = doc.nodeIds := by
  rw [← flatten_nodeListings, nodeListings_recorded, ← flatten_nodeListings doc]
  rfl

end Document

theorem Finding.dangling_node_inj {id id' target target' : String} :
    Finding.dangling id .danglingNodeRef target = Finding.dangling id' .danglingNodeRef target' ↔
      id = id' ∧ target = target' := by
  simp [Finding.dangling, String.append_right_inj, String.append_left_inj]

namespace Store

variable {source : String} {doc : Document} {settings : RepairSettings}

theorem dangling_mem_nodeRefFindings_iff {task : Task} {id target : String} :
    Finding.dangling id .danglingNodeRef target ∈ (of source doc).nodeRefFindings task ↔
      task.id = id ∧ task.nodeId = some target ∧ target ≠ "" ∧ target ∉ doc.nodeIds := by
  unfold nodeRefFindings
  cases hnode : task.nodeId with
  | none => simp
  | some node =>
      by_cases hempty : node = ""
      · subst hempty
        constructor
        · intro hmem
          cases hmem
        · intro hgiven
          exact absurd (Option.some.inj hgiven.2.1).symm hgiven.2.2.1
      · have hkept : (some node).filter (· ≠ "") = some node := by simpa using hempty
        have hcontains : (of source doc).contains .node node = true ↔ node ∈ doc.nodeIds := by
          rw [contains_node_of, and_iff_left hempty]
        simp only [hkept, hcontains]
        split
        next hlisted =>
          constructor
          · intro hmem
            cases hmem
          · rintro ⟨_, heq, _, habsent⟩
            cases heq
            exact absurd hlisted habsent
        next habsent =>
          rw [List.mem_singleton, Finding.dangling_node_inj, Option.some.injEq]
          constructor
          · rintro ⟨rfl, rfl⟩
            exact ⟨rfl, rfl, hempty, habsent⟩
          · rintro ⟨rfl, rfl, _⟩
            exact ⟨rfl, rfl⟩

theorem dangling_mem_referenceFindings_iff {id target : String} :
    Finding.dangling id .danglingNodeRef target ∈ (of source doc).referenceFindings ↔
      ∃ task ∈ doc.tasks, task.id = id ∧ task.nodeId = some target ∧ target ≠ "" ∧
        target ∉ doc.nodeIds := by
  have hcode : Finding.dangling id .danglingNodeRef target ∈ (of source doc).referenceFindings ↔
      Finding.dangling id .danglingNodeRef target ∈
        (of source doc).findingsOf .danglingNodeRef := by
    rw [← withCode_referenceFindings, Findings.mem_withCode]
    exact (and_iff_left rfl).symm
  rw [hcode]
  change _ ∈ doc.tasks.flatMap _ ↔ _
  simp only [List.mem_flatMap, dangling_mem_nodeRefFindings_iff]

theorem dangling_mem_findings_iff {id target : String} :
    Finding.dangling id .danglingNodeRef target ∈
        ((of source doc).repair settings).2.findings ↔
      ∃ task ∈ (doc.repaired settings).tasks, task.id = id ∧ task.nodeId = some target ∧
        target ≠ "" ∧ target ∉ (doc.repaired settings).nodeIds := by
  rw [mem_findings_repair_iff _ rfl, fst_repair_of, dangling_mem_referenceFindings_iff]

end Store

open Document

/-- A repair takes every reference to a node record to the new ID of that record, and tells records
apart as before.  A reference to no record stays; it still leads nowhere, and is reported for a flat
task, exactly if its ID is not one of the replacements. -/
theorem node_refs_follow_renames (settings : RepairSettings) (source : String) (doc : Document) :
    let outcome := (Store.of source doc).repair settings
    let after := outcome.1.doc
    let renamed := Renames.target outcome.2.collisions
    let replacements := outcome.2.collisions.map Rename.new
    NodeRefsFollow renamed doc after ∧
      (∀ id ∈ doc.nodeIds, ∀ i : Nat,
        after.nodeIds[i]? = some (renamed id) ↔ doc.nodeIds[i]? = some id) ∧
      (∀ id, id ∉ doc.nodeIds →
        renamed id = id ∧ (id ∈ after.nodeIds ↔ id ∈ replacements)) ∧
      ∀ task ∈ doc.tasks, ∀ id, task.nodeId = some id → id ≠ "" → id ∉ doc.nodeIds →
        (({ subject := task.id
            code := .danglingNodeRef
            text := "NodeID '" ++ id ++ "' does not resolve" } : Finding) ∈ outcome.2.findings ↔
          id ∉ replacements) := by
  intro outcome after renamed replacements
  have hcollisions : outcome.2.collisions = (doc.backfill.recorded settings).renames :=
    Store.collisions_repair_of source doc settings
  have hafter : after = doc.repaired settings :=
    congrArg Store.doc (Store.fst_repair_of source doc settings)
  have hnodes := nodeIds_recorded settings doc
  have hnodeIds : after.nodeIds = doc.nodeIds.map renamed := by
    rw [hafter, repaired, nodeIds_renamed, hnodes]
    simp only [renamed, hcollisions]
  have hfollow : NodeRefsFollow renamed doc after := by
    apply NodeRefsFollow.of_recorded settings doc
    rw [hafter]
    simp only [renamed, hcollisions]
    exact nodeRefsFollow_renamed settings _
  have hunnamed : ∀ id, id ∉ doc.nodeIds →
      renamed id = id ∧ (id ∈ after.nodeIds ↔ id ∈ replacements) := by
    intro id habsent
    have habsent' : id ∉ (doc.backfill.recorded settings).nodeIds := hnodes ▸ habsent
    rw [hnodeIds, ← hnodes]
    simp only [renamed, replacements, hcollisions]
    exact ⟨target_renames_of_not_mem habsent', mem_map_target_iff habsent'⟩
  refine ⟨hfollow, ?_, hunnamed, ?_⟩
  · intro id hnode i
    rw [hnodeIds, List.getElem?_map]
    constructor
    · intro hrenamed
      obtain ⟨former, hformer, heq⟩ := Option.map_eq_some_iff.1 hrenamed
      rw [hformer]
      congr 1
      simp only [renamed, hcollisions] at heq
      apply target_renames_injective ?_ ?_ heq
      · exact hnodes ▸ List.mem_of_getElem? hformer
      · exact hnodes ▸ hnode
    · intro hformer
      rw [hformer]
      rfl
  · intro task htask id hnode hne habsent
    obtain ⟨hkept, hcaptured⟩ := hunnamed id habsent
    rw [← Finding.dangling_node, Store.dangling_mem_findings_iff, ← hafter, ← not_congr hcaptured]
    constructor
    · intro hfound
      obtain ⟨_, _, _, _, _, hdangling⟩ := hfound
      exact hdangling
    · intro hdangling
      obtain ⟨task', htask', hid, hnode'⟩ := hfollow.tasks.exists_of_mem htask
      refine ⟨task', htask', hid, ?_, hne, hdangling⟩
      rw [hnode', hnode, Option.map_some, hkept]

/-- A node that has the ID of a service, and a task on a node that is not there. -/
def strayTask : Document where
  nodes := [{ id := "x" }]
  services := [{ id := "x" }]
  tasks := [{ id := "t", serviceId := some "x", nodeId := some "node-x" }]

theorem repaired_strayTask :
    strayTask.repaired Settings.standard.repair =
      { strayTask with nodes := [{ id := "node-x" }] } := by
  have hlisted : strayTask.RefsListed := by
    intro ref hmem
    cases hmem
  have hrecorded : strayTask.recorded Settings.standard.repair = strayTask :=
    recorded_of_unrecorded_eq_nil _ fun _ => unrecorded_eq_nil_iff.2 (by decide)
  have hrenames : strayTask.renames = [⟨"x", "node-x"⟩] := by
    apply renames_eq_singleton rfl
    · decide
    · exact .inl (by decide)
    · unfold NamesService
      decide
  rw [repaired, backfill_of_refsListed hlisted, hrecorded, renamed, hrenames]
  decide

/-- The node takes the ID that the task has for its missing node, and nothing is reported. -/
theorem stray_ref_captured :
    let outcome := (Store.of "doc.json" strayTask).repair Settings.standard.repair
    "node-x" ∉ strayTask.nodeIds ∧ "node-x" ∈ outcome.1.doc.nodeIds ∧
      (∃ task ∈ outcome.1.doc.tasks, task.id = "t" ∧ task.nodeId = some "node-x") ∧
      ({ subject := "t"
         code := .danglingNodeRef
         text := "NodeID 'node-x' does not resolve" } : Finding) ∉ outcome.2.findings := by
  intro outcome
  have hafter : outcome.1.doc = { strayTask with nodes := [{ id := "node-x" }] } := by
    rw [← repaired_strayTask]
    exact congrArg Store.doc (Store.fst_repair_of _ _ _)
  refine ⟨by decide, ?_, ?_, ?_⟩
  · rw [hafter]
    decide
  · rw [hafter]
    exact ⟨_, List.mem_singleton_self _, rfl, rfl⟩
  · change Finding.dangling "t" .danglingNodeRef "node-x" ∉ _
    rw [Store.dangling_mem_findings_iff, repaired_strayTask]
    rintro ⟨_, _, _, _, _, habsent⟩
    exact habsent (by decide)

end MockCluster
