import MockCluster.Index
import MockCluster.Proofs.Views.Holders

/-!
Tasks that only a grouping knows: after they have joined the task list, every reference with an ID
belongs to a task of the list, and a second time there is nothing to add.
-/

namespace MockCluster.Document

theorem id_of_mem_firstUnknown {known : IdSet} {tasks : List Task} {task : Task}
    (h : task ∈ firstUnknown known tasks) : task.id ≠ "" ∧ task.id ∉ known.toList := by
  induction tasks generalizing known with
  | nil => cases h
  | cons first rest ih =>
      rw [firstUnknown] at h
      split at h
      next => exact ih h
      next hnew =>
        rw [not_or, IdSet.contains_iff] at hnew
        rcases List.mem_cons.1 h with rfl | h
        · exact hnew
        · obtain ⟨hne, habsent⟩ := ih h
          exact ⟨hne, fun hknown => habsent (IdSet.mem_toList_insert.2 (.inr hknown))⟩

theorem nodup_ids_firstUnknown (known : IdSet) (tasks : List Task) :
    ((firstUnknown known tasks).map Task.id).Nodup := by
  induction tasks generalizing known with
  | nil => exact List.nodup_nil
  | cons first rest ih =>
      rw [firstUnknown]
      split
      next => exact ih known
      next hnew =>
        rw [not_or, IdSet.contains_iff] at hnew
        rw [List.map_cons, List.nodup_cons]
        refine ⟨fun hmem => ?_, ih _⟩
        obtain ⟨task, htask, hid⟩ := List.mem_map.1 hmem
        apply (id_of_mem_firstUnknown htask).2
        exact IdSet.mem_toList_insert.2 (.inl ⟨hid, hnew.1⟩)

theorem known_or_firstUnknown (known : IdSet) {tasks : List Task} {task : Task}
    (hmem : task ∈ tasks) (hne : task.id ≠ "") :
    task.id ∈ known.toList ∨ task.id ∈ (firstUnknown known tasks).map Task.id := by
  induction tasks generalizing known with
  | nil => cases hmem
  | cons first rest ih =>
      rw [firstUnknown]
      split
      next hold =>
        rcases List.mem_cons.1 hmem with rfl | hmem
        · exact .inl (IdSet.contains_iff.1 (hold.resolve_left hne))
        · exact ih known hmem
      next hnew =>
        rcases List.mem_cons.1 hmem with rfl | hmem
        · exact .inr (by simp)
        · rcases ih (known.insert first.id) hmem with hknown | hrest
          · rcases IdSet.mem_toList_insert.1 hknown with ⟨hid, _⟩ | hknown
            · exact .inr (by simp [hid])
            · exact .inl hknown
          · exact .inr (by simp [List.mem_map.1 hrest])

theorem firstUnknown_sublist (known : IdSet) (tasks : List Task) :
    List.Sublist (firstUnknown known tasks) tasks := by
  induction tasks generalizing known with
  | nil => exact List.Sublist.slnil
  | cons first rest ih =>
      rw [firstUnknown]
      split
      next => exact (ih known).cons first
      next => exact (ih _).cons_cons first

/-- Every filed reference with an ID belongs to a task of the list. -/
def RefsListed (doc : Document) : Prop :=
  ∀ ref ∈ doc.filedRefs, ref.id ≠ "" → ref.id ∈ doc.taskIds

theorem refsListed_iff_referencedTasks {doc : Document} :
    doc.RefsListed ↔ ∀ task ∈ doc.referencedTasks, task.id ≠ "" → task.id ∈ doc.taskIds := by
  have hids := map_id_referencedTasks doc
  constructor
  · intro h task hmem hne
    have hid : task.id ∈ doc.filedRefs.map TaskRef.id := hids ▸ List.mem_map_of_mem hmem
    obtain ⟨ref, href, heq⟩ := List.mem_map.1 hid
    exact heq ▸ h ref href (heq ▸ hne)
  · intro h ref hmem hne
    have hid : ref.id ∈ doc.referencedTasks.map Task.id := hids ▸ List.mem_map_of_mem hmem
    obtain ⟨task, htask, heq⟩ := List.mem_map.1 hid
    exact heq ▸ h task htask (heq ▸ hne)

theorem unlistedTasks_eq_nil_iff {doc : Document} :
    doc.unlistedTasks = [] ↔ doc.RefsListed := by
  rw [refsListed_iff_referencedTasks]
  constructor
  · intro h task hmem hne
    rcases known_or_firstUnknown (IdSet.ofList (doc.tasks.map Task.id)) hmem hne with
      hknown | hunlisted
    · exact (IdSet.mem_toList_ofList.1 hknown).1
    · rw [← unlistedTasks, h] at hunlisted
      cases hunlisted
  · intro h
    apply List.eq_nil_iff_forall_not_mem.2
    intro task hmem
    obtain ⟨hne, habsent⟩ := id_of_mem_firstUnknown hmem
    have hlisted := h task ((firstUnknown_sublist _ _).subset hmem) hne
    exact habsent (IdSet.mem_toList_ofList.2 ⟨hlisted, hne⟩)

/-- Tasks that the list does not have, each with an ID of its own. -/
structure NewTasks (doc : Document) (tasks : List Task) : Prop where
  nodup : (tasks.map Task.id).Nodup
  unlisted : ∀ task ∈ tasks, task.id ∉ doc.taskIds

theorem newTasks_unlistedTasks (doc : Document) : doc.NewTasks doc.unlistedTasks where
  nodup := nodup_ids_firstUnknown _ _
  unlisted task hmem hlisted := by
    obtain ⟨hne, habsent⟩ := id_of_mem_firstUnknown hmem
    exact habsent (IdSet.mem_toList_ofList.2 ⟨hlisted, hne⟩)

theorem backfill_of_refsListed {doc : Document} (h : doc.RefsListed) : doc.backfill = doc := by
  simp [backfill, unlistedTasks_eq_nil_iff.2 h]

theorem taskIds_backfill (doc : Document) :
    doc.backfill.taskIds = doc.taskIds ++ doc.unlistedTasks.map Task.id :=
  List.map_append

theorem taskIds_subset_backfill (doc : Document) : doc.taskIds ⊆ doc.backfill.taskIds := by
  rw [taskIds_backfill]
  exact List.subset_append_left _ _

/-- References are where they were, so a reference is either to a task of the list or to one that
joins it. -/
theorem refsListed_backfill (doc : Document) : doc.backfill.RefsListed := by
  apply refsListed_iff_referencedTasks.2
  intro task hmem hne
  rw [taskIds_backfill, List.mem_append]
  rcases known_or_firstUnknown (IdSet.ofList (doc.tasks.map Task.id)) hmem hne with
    hknown | hunlisted
  · exact .inl (IdSet.mem_toList_ofList.1 hknown).1
  · exact .inr hunlisted

theorem unlistedTasks_backfill (doc : Document) : doc.backfill.unlistedTasks = [] :=
  unlistedTasks_eq_nil_iff.2 doc.refsListed_backfill

end MockCluster.Document
