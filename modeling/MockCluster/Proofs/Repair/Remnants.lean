import MockCluster.Proofs.Document.Members
import MockCluster.Proofs.Repair.Updates

/-!
Where the JSON of a repaired document still has a node ID that was replaced as the value of a member
named `NodeID`: in the labels of services and nowhere else.

The labels of a service are open data in a field of their own.  The walk meets untyped data only, so
they stay as they are.
-/

namespace MockCluster

open Json (countUnder stringsUnder)

namespace Json

/-- A search for node IDs replaces every string under the name. -/
theorem stringsUnder_replaceNodeIds (f : String → String) (members : Members) :
    stringsUnder "NodeID" (.object (mapMembers (replaceNodeIds f) [] members)) =
      (stringsUnder "NodeID" (.object members)).map f := by
  apply stringsUnder_mapMembers
  intro way value hunder
  have hnames : way.NamesNode = true := by
    cases way with
    | nil => cases hunder
    | cons step way =>
        cases step with
        | item => cases hunder
        | member key => exact Bool.or_eq_true_iff.2 (.inl hunder)
  rw [replaceNodeIds, if_pos hnames]

end Json

theorem Service.not_mem_stringsUnder_stackLabels {id : String} (stack : Option String) :
    id ∉ stringsUnder "NodeID" (.object (stackLabels stack)) := by
  cases stack with
  | none => exact List.not_mem_nil
  | some stack =>
      rw [stackLabels, Json.stringsUnder_object_cons, if_neg (by decide)]
      exact List.not_mem_nil

section WrittenLabels

variable {s : Substitution} (hkeys : ∀ members, (s.untyped members).keys = members.keys)

include hkeys

theorem Service.writtenLabels_substituted (service : Service) :
    (s.service service).writtenLabels = service.writtenLabels := by
  have hspec : ∀ spec, (s.serviceSpec spec).writtenLabels = spec.writtenLabels := by
    intro spec
    rw [ServiceSpec.writtenLabels, Substitution.serviceSpec, hkeys]
    rfl
  change (if "Spec" ∈ (s.untyped service.untyped).keys then [] else
    (service.spec.map s.serviceSpec).toList.flatMap ServiceSpec.writtenLabels) = _
  rw [hkeys, Option.toList_map, List.flatMap_map, writtenLabels]
  simp only [hspec]

theorem Document.writtenLabels_substituted (doc : Document) :
    (s.document doc).writtenLabels = doc.writtenLabels := by
  change (if "services" ∈ (s.untyped doc.untyped).keys then [] else
    (doc.services.map s.service).flatMap Service.writtenLabels) = _
  rw [hkeys, List.flatMap_map, writtenLabels]
  simp only [Service.writtenLabels_substituted hkeys]

end WrittenLabels

namespace Document

variable {doc : Document} (settings : RepairSettings)

theorem target_ne_old {rename : Rename} (h : rename ∈ doc.renames) (id : String) :
    Renames.target doc.renames id ≠ rename.old := by
  intro heq
  apply (doc.mem_olds_renames_iff_target).1 (List.mem_map_of_mem h)
  rw [← heq, target_renames_target]

/-- No position that the walk meets has an ID that it replaces. -/
theorem ofMembers_renamed_eq_zero (huntyped : settings.renamesInUntyped = true) {rename : Rename}
    (h : rename ∈ doc.renames) :
    (Tally.ofMembers rename.old).document (doc.renamed settings) = 0 := by
  rw [renamed_eq, Tally.document_after _ fun _ => rfl, Tally.document_eq_zero]
  · intro site id
    cases site with
    | taskNodeId | groupingEntry | unassignedEntry => exact if_neg (target_ne_old h id)
    | nodeRecord | serviceGroupingKey => rfl
  · intro members
    change countUnder _ _ (.object (Substitution.untyped _ members)) = 0
    rw [Substitution.untyped_ofNodeIds, if_pos huntyped, countUnder,
      Json.stringsUnder_replaceNodeIds, List.count_eq_zero]
    intro hmem
    obtain ⟨former, _, heq⟩ := List.mem_map.1 hmem
    exact target_ne_old h former heq

theorem mem_stringsUnder_renamed_iff (huntyped : settings.renamesInUntyped = true)
    {rename : Rename} (h : rename ∈ doc.renames) :
    rename.old ∈ stringsUnder "NodeID" (.object (doc.renamed settings).topLevel) ↔
      ∃ labels ∈ doc.writtenLabels, rename.old ∈ stringsUnder "NodeID" (.object labels) := by
  have hlabels : (doc.renamed settings).writtenLabels = doc.writtenLabels := by
    rw [renamed_eq]
    exact writtenLabels_substituted (Substitution.keys_untyped_ofNodeIds _ _) doc
  rw [← hlabels]
  refine ⟨fun hmem => ?_, fun ⟨labels, hwritten, hmem⟩ => mem_stringsUnder hmem hwritten⟩
  have hcount := countUnder_topLevel_le rename.old (doc.renamed settings)
  rw [ofMembers_renamed_eq_zero settings huntyped h, Nat.zero_add] at hcount
  obtain ⟨labels, hwritten, hpositive⟩ :=
    sumBy_pos_iff.1 ((List.count_pos_iff.2 hmem).trans_le hcount)
  exact ⟨labels, hwritten, List.count_pos_iff.1 hpositive⟩

/-- The labels of a stub tell its stack only. -/
theorem mem_writtenLabels_recorded_iff {id : String} :
    (∃ labels ∈ (doc.recorded settings).writtenLabels,
      id ∈ stringsUnder "NodeID" (.object labels)) ↔
      ∃ labels ∈ doc.writtenLabels, id ∈ stringsUnder "NodeID" (.object labels) := by
  unfold recorded
  split
  next =>
    rw [exists_writtenLabels_iff, exists_writtenLabels_iff]
    refine and_congr_right fun _ => ?_
    simp only [withStubs, List.mem_append, or_and_right, exists_or]
    apply or_iff_left
    rintro ⟨service, hstub, -, spec, hspec, -, hmem⟩
    obtain ⟨unrecorded, -, rfl⟩ := List.mem_map.1 hstub
    cases hspec
    exact Service.not_mem_stringsUnder_stackLabels _ hmem
  next => rfl

end Document

/-- A node that has the ID of a service, which has some labels. -/
def sharedId (labels : Members) : Document where
  nodes := [{ id := "x" }]
  services := [{ id := "x", spec := some { labels := labels } }]

theorem recorded_sharedId (labels : Members) (settings : RepairSettings) :
    (sharedId labels).backfill.recorded settings = sharedId labels := by
  have hlisted : (sharedId labels).RefsListed := by
    intro ref hmem
    cases hmem
  have hunrecorded : (sharedId labels).unrecorded = [] :=
    Document.unrecorded_eq_nil_iff.2 fun id hmem _ => hmem
  rw [Document.backfill_of_refsListed hlisted,
    Document.recorded_of_unrecorded_eq_nil settings fun _ => hunrecorded]

theorem renames_sharedId (labels : Members) :
    (sharedId labels).renames = [⟨"x", "node-x"⟩] := by
  apply Document.renames_eq_singleton rfl
  · decide
  · exact .inl List.mem_cons_self
  · rintro (hlisted | ⟨hkey, _⟩)
    · exact (show "node-" ++ "x" ≠ "x" by decide) (List.mem_singleton.1 hlisted)
    · exact List.not_mem_nil hkey

theorem collisions_sharedId (labels : Members) (settings : RepairSettings) :
    ((Store.of "doc.json" (sharedId labels)).repair settings).2.collisions =
      [⟨"x", "node-x"⟩] := by
  rw [Store.collisions_repair_of, recorded_sharedId, renames_sharedId]

/-- A replaced ID stays under the name exactly where it was in the labels of a service.  They are
written unless an untyped member has the key of the labels, or of a record they stand in, and takes
its place. -/
theorem replaced_ids_stay_in_labels (source : String) (doc : Document) (settings : RepairSettings)
    (huntyped : settings.renamesInUntyped = true) :
    let outcome := (Store.of source doc).repair settings
    ∀ rename ∈ outcome.2.collisions,
      (rename.old ∈ stringsUnder "NodeID" (.object outcome.1.doc.topLevel) ↔
        "services" ∉ doc.untyped.keys ∧
          ∃ service ∈ doc.services, "Spec" ∉ service.untyped.keys ∧
            ∃ spec ∈ service.spec, "Labels" ∉ spec.untyped.keys ∧
              rename.old ∈ stringsUnder "NodeID" (.object spec.labels)) := by
  intro outcome rename hmem
  have hafter : outcome.1.doc = doc.repaired settings :=
    congrArg Store.doc (Store.fst_repair_of source doc settings)
  have hcollides : rename ∈ (doc.backfill.recorded settings).renames :=
    Store.collisions_repair_of source doc settings ▸ hmem
  rw [hafter, Document.repaired, Document.mem_stringsUnder_renamed_iff settings huntyped hcollides,
    Document.mem_writtenLabels_recorded_iff, Document.exists_writtenLabels_iff]
  rfl

theorem replaced_id_gone_without_label :
    let outcome := (Store.of "doc.json" (sharedId [])).repair Settings.standard.repair
    outcome.2.collisions = [⟨"x", "node-x"⟩] ∧
      "x" ∉ stringsUnder "NodeID" (.object outcome.1.doc.topLevel) := by
  intro outcome
  have hcollisions : outcome.2.collisions = [⟨"x", "node-x"⟩] := collisions_sharedId [] _
  refine ⟨hcollisions, fun hmem => ?_⟩
  have hlabel := (replaced_ids_stay_in_labels "doc.json" (sharedId []) Settings.standard.repair rfl
    ⟨"x", "node-x"⟩ (hcollisions ▸ List.mem_singleton_self _)).1 hmem
  revert hlabel
  decide

/-- The node moves away from the ID, and a member named `NodeID` keeps it. -/
theorem label_keeps_replaced_id :
    let outcome := (Store.of "doc.json"
      (sharedId [("NodeID", .string "x")])).repair Settings.standard.repair
    Settings.standard.repair.renamesInUntyped = true ∧
      outcome.2.collisions = [⟨"x", "node-x"⟩] ∧
      "x" ∈ stringsUnder "NodeID" (.object outcome.1.doc.topLevel) := by
  intro outcome
  have hafter : outcome.1.doc =
      { sharedId [("NodeID", .string "x")] with nodes := [{ id := "node-x" }] } := by
    refine (congrArg Store.doc (Store.fst_repair_of _ _ _)).trans ?_
    change Document.repaired _ _ = _
    rw [Document.repaired, recorded_sharedId, Document.renamed, renames_sharedId]
    decide
  refine ⟨rfl, collisions_sharedId _ _, ?_⟩
  rw [hafter]
  decide

end MockCluster
