import MockCluster.Proofs.Document.Rekey
import MockCluster.Proofs.Document.Retained
import MockCluster.Proofs.Repair.Settled

/-!
The walk that replaces node IDs puts one substitution, once, wherever a node is named, and changes
nothing else.
-/

namespace MockCluster

namespace Document

variable (settings : RepairSettings) (doc : Document)

/-- A walk without replacements would change nothing, so it does not matter that it is left out. -/
theorem renamed_eq :
    doc.renamed settings =
      (Substitution.ofNodeIds (Renames.target doc.renames) settings.renamesInUntyped).document
        doc := by
  unfold renamed
  split
  next hnone =>
    have htarget : Renames.target doc.renames = id := by
      rw [List.isEmpty_iff.1 hnone]
      rfl
    rw [htarget, Substitution.ofNodeIds_id, Substitution.document_idle]
  next => rfl

variable {doc}

theorem new_not_mem_nodeIds {rename : Rename} (h : rename ∈ doc.renames) :
    rename.new ∉ doc.nodeIds := by
  obtain ⟨taken, hfresh, hnodes, _⟩ := doc.exists_fresh_renames
  intro hnode
  exact hfresh.new_not_taken rename h (hnodes _ hnode (hfresh.new_ne_empty rename h))

end Document

theorem Substitution.untyped_ofNodeIds (f : String → String) (untyped : Bool) (members : Members) :
    (ofNodeIds f untyped).untyped members =
      if untyped then Json.mapMembers (Json.replaceNodeIds f) [] members else members := by
  cases untyped with
  | false => rfl
  | true => exact Json.visitMembers_eq f [] members

theorem Substitution.keys_untyped_ofNodeIds (f : String → String) (untyped : Bool)
    (members : Members) : ((ofNodeIds f untyped).untyped members).keys = members.keys := by
  cases untyped with
  | false => rfl
  | true => exact Json.keys_visitMembers f false members

open Document

/-- The walk of a repair is one substitution `s`, made of the planned replacements.  The buckets of
a service's grouping move as a whole, behind the one that was under their new key before, and
untyped data is reached only if the settings say so.  As no replacement is the ID of a node, none
is replaced in turn. -/
theorem walk_substitutes_once (settings : RepairSettings) (source : String) (doc : Document) :
    let outcome := (Store.of source doc).repair settings
    let before := doc.backfill.recorded settings
    let renamed := Renames.target outcome.2.collisions
    let s := Substitution.ofNodeIds renamed settings.renamesInUntyped
    (Renames.apply outcome.2.collisions settings.renamesInUntyped before).1 = s.document before ∧
      outcome.1.doc = s.document before ∧
      (∀ grouping key, (s.serviceGrouping grouping).find? key =
        if renamed key = key then
          (grouping.gathered (key :: s.arrivals grouping.keys key)).map (List.map s.ref)
        else none) ∧
      (∀ grouping : Grouping, (s.serviceGrouping grouping).filings.Perm
        (grouping.filings.map (Prod.map renamed s.ref))) ∧
      (∀ members, s.untyped members =
        if settings.renamesInUntyped then Json.mapMembers (Json.replaceNodeIds renamed) [] members
        else members) ∧
      outcome.1.doc.serviceListings = before.serviceListings ∧
      outcome.1.doc.nodeKeys = before.nodeKeys ∧
      outcome.1.doc.taskIds = before.taskIds ∧
      (∀ rename ∈ outcome.2.collisions, renamed rename.old = rename.new ∧
        rename.old ∈ before.nodeIds ∧ rename.new ∉ before.nodeIds) ∧
      (∀ id, (∀ rename ∈ outcome.2.collisions, rename.old ≠ id) → renamed id = id) ∧
      ∀ id, renamed (renamed id) = renamed id := by
  intro outcome before renamed s
  have hcollisions : outcome.2.collisions = before.renames :=
    Store.collisions_repair_of source doc settings
  have hafter : outcome.1.doc = before.renamed settings :=
    congrArg Store.doc (Store.fst_repair_of source doc settings)
  have hstable : ∀ id, s.nodeId (s.nodeId id) = s.nodeId id := by
    intro id
    change Renames.target _ (Renames.target _ id) = Renames.target _ id
    rw [hcollisions, target_renames_target]
  refine ⟨Renames.fst_apply _ _ before, ?_, ?_, Substitution.filings_serviceGrouping_perm hstable,
    Substitution.untyped_ofNodeIds renamed settings.renamesInUntyped, ?_, ?_, ?_, ?_, ?_, hstable⟩
  · rw [hafter, renamed_eq]
    simp only [s, renamed, hcollisions]
  · intro grouping key
    rw [Substitution.serviceGrouping, Substitution.nodeGrouping, OrderedMap.find?_map,
      Substitution.find?_rekey hstable, apply_ite (Option.map (List.map s.ref)), Option.map_none]
    rfl
  · rw [hafter, serviceListings_renamed]
  · rw [hafter, nodeKeys_renamed]
  · rw [hafter, taskIds_renamed]
  · intro rename hmem
    rw [hcollisions] at hmem
    refine ⟨?_, ?_, new_not_mem_nodeIds hmem⟩
    · simp only [renamed, hcollisions]
      exact target_renames_of_mem hmem
    · exact (mem_olds_renames before).1 (List.mem_map_of_mem hmem) |>.1
  · intro id hkept
    rcases Renames.target_eq outcome.2.collisions id with ⟨rename, hmem, hold, _⟩ | ⟨_, htarget⟩
    · exact absurd hold (hkept rename hmem)
    · exact htarget

end MockCluster
