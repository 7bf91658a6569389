import MockCluster.Proofs.Document.Listings
import MockCluster.Proofs.Index
import MockCluster.Proofs.Repair.Renames
import MockCluster.Proofs.Views.Backfill
import MockCluster.Repair.Report

/-!
What a repair does to a document: tasks that only views know are listed, services that only listings
know get records, and nodes move away from the IDs of services.  It leaves nothing that a second
repair would change.
-/

namespace MockCluster

namespace Document

/-- The services that only listings know. -/
def unrecorded (doc : Document) : List String := (Store.of "" doc).unrecordedServices

def withStubs (doc : Document) : Document :=
  { doc with services := doc.services ++ doc.unrecorded.map doc.stubOf }

def recorded (settings : RepairSettings) (doc : Document) : Document :=
  if settings.backfillServiceStubs then doc.withStubs else doc

def renamed (settings : RepairSettings) (doc : Document) : Document :=
  if doc.renames.isEmpty then doc
  else (Renames.substitution doc.renames settings.renamesInUntyped).document doc

def repaired (settings : RepairSettings) (doc : Document) : Document :=
  (doc.backfill.recorded settings).renamed settings

theorem mem_unrecorded {doc : Document} {id : String} :
    id ∈ doc.unrecorded ↔
      id ∈ doc.listedServiceIds ∧ id ≠ "" ∧ id ∉ doc.serviceIds := by
  have hknown : id ∈ (Store.of "" doc).index.knownIds .service ↔
      id ∈ doc.listedServiceIds ∧ id ≠ "" := IdSet.mem_toList_ofList
  have hrecorded : (Store.of "" doc).contains .service id = true ↔
      id ∈ doc.serviceIds ∧ id ≠ "" := Store.contains_service_of
  rw [unrecorded, Store.unrecordedServices, List.mem_filter, hknown, Bool.not_eq_true',
    ← Bool.not_eq_true, hrecorded]
  constructor
  · intro hgiven
    obtain ⟨⟨hlisted, hne⟩, habsent⟩ := hgiven
    exact ⟨hlisted, hne, fun hservice => habsent ⟨hservice, hne⟩⟩
  · intro hgiven
    obtain ⟨hlisted, hne, habsent⟩ := hgiven
    exact ⟨⟨hlisted, hne⟩, fun hservice => habsent hservice.1⟩

theorem unrecorded_eq_nil_iff {doc : Document} :
    doc.unrecorded = [] ↔ ∀ id ∈ doc.listedServiceIds, id ≠ "" → id ∈ doc.serviceIds := by
  rw [List.eq_nil_iff_forall_not_mem]
  simp only [mem_unrecorded, not_and, not_not]

section Stubs

variable (doc : Document)

theorem serviceIds_withStubs : doc.withStubs.serviceIds = doc.serviceIds ++ doc.unrecorded := by
  simp [serviceIds, withStubs, Function.comp_def, stubOf, Service.stub]

theorem mem_listedServiceIds_withStubs {id : String} :
    id ∈ doc.withStubs.listedServiceIds ↔ id ∈ doc.listedServiceIds := by
  have hstubs : doc.withStubs.listedServiceIds =
      doc.serviceIds ++ doc.unrecorded ++ doc.summaries.map ServiceSummary.id ++
        doc.logServices.map LogService.id ++
        doc.stackRecords.flatMap fun stack => stack.services.map StackService.id := by
    rw [← serviceIds_withStubs]
    rfl
  have hunrecorded : id ∈ doc.unrecorded → id ∈ doc.listedServiceIds := fun hmem =>
    (mem_unrecorded.1 hmem).1
  rw [hstubs]
  unfold listedServiceIds at hunrecorded ⊢
  simp only [List.mem_append] at hunrecorded ⊢
  tauto

theorem serviceIdsKept_withStubs : ServiceIdsKept doc doc.withStubs := by
  have hstubs : doc.withStubs.serviceListings =
      (doc.serviceIds ++ doc.unrecorded) :: doc.serviceListings.tail := by
    rw [← serviceIds_withStubs]
    rfl
  intro i ids hids
  rw [hstubs]
  cases i with
  | zero =>
      cases hids
      exact ⟨_, rfl, List.prefix_append _ _⟩
  | succ i => exact ⟨ids, hids, List.prefix_refl ids⟩

theorem filedRefs_withStubs : doc.withStubs.filedRefs = doc.filedRefs := by
  have hstubs :
      ((doc.unrecorded.map doc.stubOf).map Holder.ofService).flatMap Holder.refs = [] := by
    simp [List.flatMap_eq_nil_iff, Holder.refs, Holder.ofService, stubOf, Service.stub]
  have hholders : doc.withStubs.serviceHolders.flatMap Holder.refs =
      doc.serviceHolders.flatMap Holder.refs := by
    simp only [serviceHolders, withStubs, List.map_append, List.flatMap_append] at hstubs ⊢
    rw [hstubs, List.append_nil]
  simp only [filedRefs, hholders]
  rfl

theorem unrecorded_withStubs : doc.withStubs.unrecorded = [] := by
  apply unrecorded_eq_nil_iff.2
  intro id hlisted hne
  rw [serviceIds_withStubs, List.mem_append]
  by_cases hrecorded : id ∈ doc.serviceIds
  · exact .inl hrecorded
  · exact .inr (mem_unrecorded.2 ⟨(mem_listedServiceIds_withStubs doc).1 hlisted, hne, hrecorded⟩)

end Stubs

section Recorded

variable (settings : RepairSettings) (doc : Document)

theorem tasks_recorded : (doc.recorded settings).tasks = doc.tasks := by
  unfold recorded
  split <;> rfl

theorem nodeListings_recorded : (doc.recorded settings).nodeListings = doc.nodeListings := by
  unfold recorded
  split <;> rfl

theorem serviceIdsKept_recorded : ServiceIdsKept doc (doc.recorded settings) := by
  unfold recorded
  split
  next => exact serviceIdsKept_withStubs doc
  next => exact .of_eq rfl

theorem refsListed_recorded {doc : Document} (h : doc.RefsListed) :
    (doc.recorded settings).RefsListed := by
  unfold recorded
  split
  next =>
    intro ref hmem hne
    exact h ref (filedRefs_withStubs doc ▸ hmem) hne
  next => exact h

theorem unrecorded_recorded (hstubs : settings.backfillServiceStubs = true) :
    (doc.recorded settings).unrecorded = [] := by
  rw [recorded, if_pos hstubs]
  exact doc.unrecorded_withStubs

theorem recorded_of_unrecorded_eq_nil {doc : Document}
    (h : settings.backfillServiceStubs = true → doc.unrecorded = []) :
    doc.recorded settings = doc := by
  unfold recorded
  split
  next hstubs => simp [withStubs, h hstubs]
  next => rfl

end Recorded

section Renamed

variable (settings : RepairSettings) (doc : Document)

theorem nodeListings_renamed :
    (doc.renamed settings).nodeListings =
      doc.nodeListings.map (List.map (Renames.target doc.renames)) := by
  unfold renamed
  split
  next hempty =>
    rw [List.isEmpty_iff.1 hempty]
    have hid : List.map (Renames.target []) = id := funext fun ids => List.map_id ids
    rw [hid, List.map_id]
  next => exact Substitution.nodeListings_document _ doc

theorem nodeIds_renamed :
    (doc.renamed settings).nodeIds = doc.nodeIds.map (Renames.target doc.renames) := by
  rw [← flatten_nodeListings, nodeListings_renamed, ← List.map_flatten, flatten_nodeListings]

theorem nodesKept_renamed : NodesKept doc (doc.renamed settings) := by
  unfold renamed
  split
  next => exact .of_eq rfl
  next =>
    apply Substitution.nodesKept_document _ doc
    intro first hfirst second hsecond heq
    exact target_renames_injective hfirst hsecond heq

theorem serviceListings_renamed :
    (doc.renamed settings).serviceListings = doc.serviceListings := by
  unfold renamed
  split
  next => rfl
  next => exact Substitution.serviceListings_document _ doc

theorem taskIds_renamed : (doc.renamed settings).taskIds = doc.taskIds := by
  unfold renamed
  split
  next => rfl
  next => exact Substitution.taskIds_document _ doc

theorem nodeKeys_renamed : (doc.renamed settings).nodeKeys = doc.nodeKeys := by
  unfold renamed
  split
  next => rfl
  next => simp [nodeKeys, List.flatMap_map]

theorem namesService_renamed {id : String} :
    (doc.renamed settings).NamesService id ↔ doc.NamesService id := by
  rw [NamesService, NamesService, nodeKeys_renamed, ← flatten_serviceListings,
    ← flatten_serviceListings, serviceListings_renamed]

theorem refsListed_renamed {doc : Document} (h : doc.RefsListed) :
    (doc.renamed settings).RefsListed := by
  intro ref hmem hne
  rw [taskIds_renamed]
  unfold renamed at hmem
  split at hmem
  next => exact h ref hmem hne
  next =>
    obtain ⟨former, hformer, hid⟩ := Substitution.exists_of_mem_filedRefs_document _ doc hmem
    exact hid ▸ h former hformer (hid ▸ hne)

theorem renames_renamed : (doc.renamed settings).renames = [] := by
  rw [renames_eq_nil_iff, nodeIds_renamed]
  intro id hmem hne
  obtain ⟨former, hformer, rfl⟩ := List.mem_map.1 hmem
  rw [namesService_renamed]
  refine not_namesService_target hformer fun hempty => hne ?_
  rw [hempty, target_renames_eq_empty_iff]

end Renamed

/-- A document in which a repair finds nothing to do. -/
structure Settled (settings : RepairSettings) (doc : Document) : Prop where
  refsListed : doc.RefsListed
  recorded : settings.backfillServiceStubs = true → doc.unrecorded = []
  separated : doc.renames = []

theorem settled_of_nil (settings : RepairSettings) {doc : Document} (hrefs : doc.filedRefs = [])
    (hlisted : doc.listedServiceIds = []) (hkeys : doc.nodeKeys = []) : doc.Settled settings := by
  refine ⟨?_, fun _ => unrecorded_eq_nil_iff.2 ?_, (renames_eq_nil_iff _).2 ?_⟩
  · simp [RefsListed, hrefs]
  · simp [hlisted]
  · simp [NamesService, hlisted, hkeys]

section Repaired

variable (settings : RepairSettings) (doc : Document)

theorem unrecorded_renamed : (doc.renamed settings).unrecorded = [] ↔ doc.unrecorded = [] := by
  have hservices := congrArg List.head? (serviceListings_renamed settings doc)
  rw [unrecorded_eq_nil_iff, unrecorded_eq_nil_iff, ← flatten_serviceListings,
    serviceListings_renamed, flatten_serviceListings]
  rw [show (doc.renamed settings).serviceIds = doc.serviceIds from Option.some.inj hservices]

theorem settled_repaired : (doc.repaired settings).Settled settings where
  refsListed := refsListed_renamed settings (refsListed_recorded settings doc.refsListed_backfill)
  recorded hstubs :=
    (unrecorded_renamed settings _).2 (unrecorded_recorded settings doc.backfill hstubs)
  separated := renames_renamed settings _

theorem Settled.repaired_eq {doc : Document} (h : doc.Settled settings) :
    doc.repaired settings = doc := by
  rw [repaired, backfill_of_refsListed h.refsListed,
    recorded_of_unrecorded_eq_nil settings h.recorded, renamed, h.separated]
  rfl

end Repaired

end Document

namespace Store

variable (source : String) (doc : Document) (settings : RepairSettings)

theorem backfillTasks_of : (of source doc).backfillTasks = of source doc.backfill := by
  unfold backfillTasks
  split
  next hnone =>
    have hunlisted : doc.unlistedTasks = [] := List.isEmpty_iff.1 hnone
    rw [Document.backfill, hunlisted, List.append_nil]
  next => rfl

theorem addStubs_of : (of source doc).addStubs = of source doc.withStubs := by
  unfold addStubs
  split
  next hnone =>
    have hunrecorded : doc.unrecorded = [] := List.isEmpty_iff.1 hnone
    rw [Document.withStubs, hunrecorded, List.map_nil, List.append_nil]
  next => rfl

theorem renameNodes_of :
    ((of source doc).renameNodes doc.renames settings.renamesInUntyped).1 =
      of source (doc.renamed settings) := by
  unfold renameNodes Document.renamed
  split
  next => rfl
  next =>
    rw [← Renames.fst_apply]
    rfl

theorem recorded_of :
    (if settings.backfillServiceStubs then (of source doc).addStubs else of source doc) =
      of source (doc.recorded settings) := by
  unfold Document.recorded
  split
  · exact addStubs_of source doc
  · rfl

theorem fst_repair_of :
    ((of source doc).repair settings).1 = of source (doc.repaired settings) := by
  simp only [repair, backfillTasks_of, recorded_of, Document.plannedRenames_of]
  exact renameNodes_of source (doc.backfill.recorded settings) settings

theorem collisions_repair_of :
    ((of source doc).repair settings).2.collisions =
      (doc.backfill.recorded settings).renames := by
  simp only [repair, backfillTasks_of, recorded_of, Document.plannedRenames_of]

theorem stubs_repair_of :
    ((of source doc).repair settings).2.stubs =
      if settings.backfillServiceStubs then doc.backfill.unrecorded else [] := by
  simp only [repair, backfillTasks_of]
  rfl

theorem backfilled_repair_of :
    ((of source doc).repair settings).2.backfilled = doc.unlistedTasks.length := rfl

end Store

end MockCluster
