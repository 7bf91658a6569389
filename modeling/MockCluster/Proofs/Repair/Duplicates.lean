import Mathlib.Data.List.Nodup
import MockCluster.Proofs.FreshName
import MockCluster.Proofs.InPlace

/-!
Repeated task IDs: afterwards those of all that look like tasks are different, no ID has gone out of
use, and where they were different before nothing is renamed.
-/

namespace MockCluster

namespace Duplicates

variable {counts : Std.HashMap String Nat} {taken : IdSet} {task : Task} {rest : List Task}

def later (counts : Std.HashMap String Nat) (taken : IdSet) (task : Task) : String :=
  freshName taken (candidate task.id) (counts.getD task.id 0)

/-- How often each ID has been seen once the task has been. -/
def seen (counts : Std.HashMap String Nat) (task : Task) : Std.HashMap String Nat :=
  counts.insert task.id (counts.getD task.id 0 + 1)

theorem resolve_cons_other (h : task.looksLikeTask = false) :
    resolve counts taken (task :: rest) =
      (task :: (resolve counts taken rest).1, (resolve counts taken rest).2) := by
  rw [resolve, h]
  rfl

theorem resolve_cons_first (h : task.looksLikeTask = true) (hfirst : counts.getD task.id 0 = 0) :
    resolve counts taken (task :: rest) =
      (task :: (resolve (seen counts task) taken rest).1,
        (resolve (seen counts task) taken rest).2) := by
  rw [resolve, if_pos h, if_pos hfirst]
  rfl

theorem resolve_cons_later (h : task.looksLikeTask = true) (hlater : counts.getD task.id 0 ≠ 0) :
    resolve counts taken (task :: rest) =
      ({ task with id := later counts taken task } ::
          (resolve (seen counts task) (taken.insert (later counts taken task)) rest).1,
        ⟨task.id, later counts taken task⟩ ::
          (resolve (seen counts task) (taken.insert (later counts taken task)) rest).2) := by
  rw [resolve, if_pos h, if_neg hlater]
  rfl

theorem getD_seen (counts : Std.HashMap String Nat) (task : Task) (id : String) :
    (seen counts task).getD id 0 =
      if task.id = id then counts.getD task.id 0 + 1 else counts.getD id 0 := by
  simp [seen, Std.HashMap.getD_insert]

theorem of_getD_seen_eq_zero {id : String} (h : (seen counts task).getD id 0 = 0) :
    id ≠ task.id ∧ counts.getD id 0 = 0 := by
  rw [getD_seen] at h
  split at h
  next => cases h
  next hne => exact ⟨fun heq => hne heq.symm, h⟩

theorem later_ne_empty (counts : Std.HashMap String Nat) (taken : IdSet) (task : Task) :
    later counts taken task ≠ "" := by
  obtain ⟨n, _, hn⟩ := exists_freshName_eq taken (candidate task.id) (counts.getD task.id 0)
  rw [later, hn]
  exact candidate_ne_empty task.id n

theorem later_not_mem (counts : Std.HashMap String Nat) (taken : IdSet) (task : Task) :
    later counts taken task ∉ taken.toList :=
  freshName_not_mem (candidate_injective task.id) taken _

theorem id_ne_empty_of_looksLikeTask (h : task.looksLikeTask = true) : task.id ≠ "" := by
  simp only [Task.looksLikeTask, Bool.and_eq_true, decide_eq_true_iff] at h
  exact h.1

theorem looksLikeTask_withId (h : task.looksLikeTask = true) {id : String} (hne : id ≠ "") :
    { task with id := id }.looksLikeTask = true := by
  simp only [Task.looksLikeTask, Bool.and_eq_true, decide_eq_true_iff] at h ⊢
  exact ⟨hne, h.2⟩

/-- A task as it was, or with a suffix to its ID. -/
def Resolved (before after : Task) : Prop :=
  after = before ∨ ∃ n > 0, after = { before with id := candidate before.id n }

theorem forall₂_resolve (counts : Std.HashMap String Nat) (taken : IdSet) (tasks : List Task) :
    List.Forall₂ Resolved tasks (resolve counts taken tasks).1 := by
  induction tasks generalizing counts taken with
  | nil => exact .nil
  | cons task rest ih =>
      cases hlooks : task.looksLikeTask with
      | false =>
          rw [resolve_cons_other hlooks]
          exact .cons (.inl rfl) (ih _ _)
      | true =>
          by_cases hfirst : counts.getD task.id 0 = 0
          · rw [resolve_cons_first hlooks hfirst]
            exact .cons (.inl rfl) (ih _ _)
          · rw [resolve_cons_later hlooks hfirst]
            obtain ⟨n, hn, hname⟩ :=
              exists_freshName_eq taken (candidate task.id) (counts.getD task.id 0)
            refine .cons (.inr ⟨n, by omega, ?_⟩) (ih _ _)
            rw [later, hname]

/-- A task as it was, or with the new ID that one of the renames has for it. -/
def RenamedBy (renames : List Rename) (before after : Task) : Prop :=
  after = before ∨
    ∃ rename ∈ renames, before.id = rename.old ∧ after = { before with id := rename.new }

theorem RenamedBy.mono {renames more : List Rename} (hsubset : renames ⊆ more)
    {before after : Task} (h : RenamedBy renames before after) : RenamedBy more before after :=
  h.imp_right fun ⟨rename, hmem, hrename⟩ => ⟨rename, hsubset hmem, hrename⟩

theorem forall₂_renamedBy (counts : Std.HashMap String Nat) (taken : IdSet) (tasks : List Task) :
    List.Forall₂ (RenamedBy (resolve counts taken tasks).2) tasks
      (resolve counts taken tasks).1 := by
  induction tasks generalizing counts taken with
  | nil => exact .nil
  | cons task rest ih =>
      cases hlooks : task.looksLikeTask with
      | false =>
          rw [resolve_cons_other hlooks]
          exact .cons (.inl rfl) (ih _ _)
      | true =>
          by_cases hfirst : counts.getD task.id 0 = 0
          · rw [resolve_cons_first hlooks hfirst]
            exact .cons (.inl rfl) (ih _ _)
          · rw [resolve_cons_later hlooks hfirst]
            refine .cons (.inr ⟨_, List.mem_cons_self, rfl, rfl⟩) ?_
            exact (ih _ _).imp fun _ _ => .mono (List.subset_cons_self _ _)

/-- Nothing but an ID is ever changed. -/
theorem origin_of_mem_resolve {tasks : List Task}
    (hmem : task ∈ (resolve counts taken tasks).1) :
    ∃ former ∈ tasks, ∃ id, task = { former with id := id } := by
  have hresolved : List.Forall₂ (flip Resolved) (resolve counts taken tasks).1 tasks :=
    (forall₂_resolve counts taken tasks).flip
  obtain ⟨former, hformer, hkept | ⟨_, _, hrenamed⟩⟩ :=
    (InPlace.of_forall₂ hresolved).exists_of_mem hmem
  · exact ⟨former, hformer, former.id, hkept⟩
  · exact ⟨former, hformer, _, hrenamed⟩

/-- An ID that is in use stays in use, unless it has been seen before. -/
theorem mem_ids_resolve {tasks : List Task} {id : String} (hmem : id ∈ tasks.map Task.id) :
    id ∈ (resolve counts taken tasks).1.map Task.id ∨ counts.getD id 0 ≠ 0 := by
  induction tasks generalizing counts taken with
  | nil => cases hmem
  | cons task rest ih =>
      by_cases hid : id = task.id
      · subst hid
        cases hlooks : task.looksLikeTask with
        | false => exact .inl (by simp [resolve_cons_other hlooks])
        | true =>
            by_cases hfirst : counts.getD task.id 0 = 0
            · exact .inl (by simp [resolve_cons_first hlooks hfirst])
            · exact .inr hfirst
      · have hrest : id ∈ rest.map Task.id := by simpa [hid] using hmem
        have hseen : (seen counts task).getD id 0 = counts.getD id 0 := by
          rw [getD_seen, if_neg (Ne.symm hid)]
        cases hlooks : task.looksLikeTask with
        | false =>
            rw [resolve_cons_other hlooks]
            exact (ih hrest).imp_left (List.mem_cons_of_mem _)
        | true =>
            by_cases hfirst : counts.getD task.id 0 = 0
            · rw [resolve_cons_first hlooks hfirst]
              exact (hseen ▸ ih hrest).imp_left (List.mem_cons_of_mem _)
            · rw [resolve_cons_later hlooks hfirst]
              exact (hseen ▸ ih hrest).imp_left (List.mem_cons_of_mem _)

def taskLikeIds (tasks : List Task) : List String :=
  (tasks.filter Task.looksLikeTask).map Task.id

theorem taskLikeIds_cons_of_looksLikeTask (h : task.looksLikeTask = true) :
    taskLikeIds (task :: rest) = task.id :: taskLikeIds rest := by
  simp [taskLikeIds, h]

theorem taskLikeIds_cons_of_not (h : task.looksLikeTask = false) :
    taskLikeIds (task :: rest) = taskLikeIds rest := by
  simp [taskLikeIds, h]

theorem taskLikeIds_append (first second : List Task) :
    taskLikeIds (first ++ second) = taskLikeIds first ++ taskLikeIds second := by
  simp [taskLikeIds]

/-- What is resolved is either the first with its ID or has a name that was not taken. -/
theorem origin_of_mem_taskLikeIds_resolve {tasks : List Task} {id : String}
    (hmem : id ∈ taskLikeIds (resolve counts taken tasks).1) :
    id ∈ taskLikeIds tasks ∧ counts.getD id 0 = 0 ∨ id ∉ taken.toList := by
  induction tasks generalizing counts taken with
  | nil => cases hmem
  | cons task rest ih =>
      cases hlooks : task.looksLikeTask with
      | false =>
          rw [resolve_cons_other hlooks, taskLikeIds_cons_of_not hlooks] at hmem
          rw [taskLikeIds_cons_of_not hlooks]
          exact ih hmem
      | true =>
          rw [taskLikeIds_cons_of_looksLikeTask hlooks]
          by_cases hfirst : counts.getD task.id 0 = 0
          · rw [resolve_cons_first hlooks hfirst, taskLikeIds_cons_of_looksLikeTask hlooks] at hmem
            rcases List.mem_cons.1 hmem with rfl | hmem
            · exact .inl ⟨List.mem_cons_self, hfirst⟩
            · exact (ih hmem).imp_left fun ⟨hold, hzero⟩ =>
                ⟨List.mem_cons_of_mem _ hold, (of_getD_seen_eq_zero hzero).2⟩
          · have hnext := looksLikeTask_withId hlooks (later_ne_empty counts taken task)
            rw [resolve_cons_later hlooks hfirst, taskLikeIds_cons_of_looksLikeTask hnext] at hmem
            rcases List.mem_cons.1 hmem with rfl | hmem
            · exact .inr (later_not_mem counts taken task)
            · rcases ih hmem with ⟨hold, hzero⟩ | hnew
              · exact .inl ⟨List.mem_cons_of_mem _ hold, (of_getD_seen_eq_zero hzero).2⟩
              · exact .inr fun htaken => hnew (IdSet.mem_toList_insert.2 (.inr htaken))

theorem nodup_taskLikeIds_resolve (counts : Std.HashMap String Nat) (taken : IdSet)
    {tasks : List Task} (htaken : ∀ id ∈ taskLikeIds tasks, id ∈ taken.toList) :
    (taskLikeIds (resolve counts taken tasks).1).Nodup := by
  induction tasks generalizing counts taken with
  | nil => exact List.nodup_nil
  | cons task rest ih =>
      cases hlooks : task.looksLikeTask with
      | false =>
          rw [taskLikeIds_cons_of_not hlooks] at htaken
          rw [resolve_cons_other hlooks, taskLikeIds_cons_of_not hlooks]
          exact ih counts taken htaken
      | true =>
          rw [taskLikeIds_cons_of_looksLikeTask hlooks] at htaken
          have hrest : ∀ id ∈ taskLikeIds rest, id ∈ taken.toList := fun id hmem =>
            htaken id (List.mem_cons_of_mem _ hmem)
          by_cases hfirst : counts.getD task.id 0 = 0
          · rw [resolve_cons_first hlooks hfirst, taskLikeIds_cons_of_looksLikeTask hlooks,
              List.nodup_cons]
            refine ⟨fun hmem => ?_, ih _ _ hrest⟩
            rcases origin_of_mem_taskLikeIds_resolve hmem with ⟨_, hzero⟩ | hnew
            · exact (of_getD_seen_eq_zero hzero).1 rfl
            · exact hnew (htaken task.id List.mem_cons_self)
          · -- The new name is taken from here on, so no later task can get it.
            have hne := later_ne_empty counts taken task
            rw [resolve_cons_later hlooks hfirst,
              taskLikeIds_cons_of_looksLikeTask (looksLikeTask_withId hlooks hne), List.nodup_cons]
            refine ⟨fun hmem => ?_, ih _ _ fun id hmem => ?_⟩
            · rcases origin_of_mem_taskLikeIds_resolve hmem with ⟨hold, _⟩ | hnew
              · exact later_not_mem counts taken task (hrest _ hold)
              · exact hnew (IdSet.mem_toList_insert.2 (.inl ⟨rfl, hne⟩))
            · exact IdSet.mem_toList_insert.2 (.inr (hrest id hmem))

theorem resolve_of_nodup {tasks : List Task} (hnodup : (taskLikeIds tasks).Nodup)
    (hcounts : ∀ id ∈ taskLikeIds tasks, counts.getD id 0 = 0) :
    resolve counts taken tasks = (tasks, []) := by
  induction tasks generalizing counts with
  | nil => rfl
  | cons task rest ih =>
      cases hlooks : task.looksLikeTask with
      | false =>
          rw [taskLikeIds_cons_of_not hlooks] at hnodup hcounts
          rw [resolve_cons_other hlooks, ih hnodup hcounts]
      | true =>
          rw [taskLikeIds_cons_of_looksLikeTask hlooks] at hnodup hcounts
          rw [List.nodup_cons] at hnodup
          have hfirst := hcounts task.id List.mem_cons_self
          rw [resolve_cons_first hlooks hfirst, ih hnodup.2]
          intro id hmem
          have hne : task.id ≠ id := fun heq => hnodup.1 (heq ▸ hmem)
          rw [getD_seen, if_neg hne]
          exact hcounts id (List.mem_cons_of_mem _ hmem)

theorem resolve_eq_of_renames_eq_nil {tasks : List Task}
    (h : (resolve counts taken tasks).2 = []) : (resolve counts taken tasks).1 = tasks := by
  induction tasks generalizing counts with
  | nil => rfl
  | cons task rest ih =>
      cases hlooks : task.looksLikeTask with
      | false =>
          rw [resolve_cons_other hlooks] at h ⊢
          simp only [ih h]
      | true =>
          by_cases hfirst : counts.getD task.id 0 = 0
          · rw [resolve_cons_first hlooks hfirst] at h ⊢
            simp only [ih h]
          · rw [resolve_cons_later hlooks hfirst] at h
            cases h

end Duplicates

namespace Document

def resolved (doc : Document) : List Task × List Rename :=
  Duplicates.resolve ∅ (IdSet.ofList doc.taskIds) doc.tasks

def deduped (doc : Document) : Document := { doc with tasks := doc.resolved.1 }

/-- Whatever looks like a task has an ID of its own. -/
def DistinctTasks (doc : Document) : Prop := (Duplicates.taskLikeIds doc.tasks).Nodup

variable {doc : Document}

theorem distinctTasks_deduped (doc : Document) : doc.deduped.DistinctTasks := by
  apply Duplicates.nodup_taskLikeIds_resolve _ _
  intro id hmem
  obtain ⟨task, htask, rfl⟩ := List.mem_map.1 hmem
  obtain ⟨htask, hlooks⟩ := List.mem_filter.1 htask
  exact IdSet.mem_toList_ofList.2
    ⟨List.mem_map_of_mem htask, Duplicates.id_ne_empty_of_looksLikeTask hlooks⟩

theorem resolved_of_distinctTasks (h : doc.DistinctTasks) : doc.resolved = (doc.tasks, []) :=
  Duplicates.resolve_of_nodup h fun _ _ => Std.HashMap.getD_empty

theorem deduped_of_distinctTasks (h : doc.DistinctTasks) : doc.deduped = doc := by
  rw [deduped, resolved_of_distinctTasks h]

theorem taskIds_subset_deduped (doc : Document) : doc.taskIds ⊆ doc.deduped.taskIds := by
  intro id hmem
  exact (Duplicates.mem_ids_resolve hmem).resolve_right fun hseen =>
    hseen Std.HashMap.getD_empty

theorem dedupe_of (source : String) (doc : Document) :
    (Store.of source doc).dedupe = (Store.of source doc.deduped, doc.resolved.2) := by
  change ((if doc.resolved.2.isEmpty then _ else _), doc.resolved.2) = _
  split
  next hempty =>
    have hsame : doc.deduped = doc := by
      rw [deduped, resolved, Duplicates.resolve_eq_of_renames_eq_nil (List.isEmpty_iff.1 hempty)]
    change ((⟨source, doc.deduped, Index.of doc⟩ : Store), doc.resolved.2) = _
    rw [hsame]
    rfl
  next => rfl

end Document

end MockCluster
