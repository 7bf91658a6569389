import Mathlib.Order.Bounds.Defs
import MockCluster.Proofs.Repair.Duplicates

/-!
Which name a task gets whose ID an earlier one has: the ID and the least number, from its rank among
the tasks with this ID on, that make a name which is neither in use nor handed out before.

The pass knows the tasks behind it by its counts and by the names that are taken.  Both tell the
same of an ID as these tasks themselves do, and so what becomes of a task can be told from its place.
-/

namespace MockCluster

namespace Duplicates

/-- The IDs that differ place by place. -/
def changedIds (before after : List Task) : List Rename :=
  (before.zip after).filterMap fun (old, new) =>
    if old.id = new.id then none else some ⟨old.id, new.id⟩

/-- How many tasks in front of a place have an ID. -/
def rank (before : List Task) (place : Nat) (id : String) : Nat :=
  (taskLikeIds (before.take place)).count id

/-- The names that have been given to tasks in front of a place. -/
def handedOut (before after : List Task) (place : Nat) : List String :=
  (changedIds (before.take place) (after.take place)).map Rename.new

/-- The numbers that a task at a place may get behind its ID. -/
def freeNumbers (before after : List Task) (place : Nat) (id : String) : Set Nat :=
  {n | rank before place id ≤ n ∧ candidate id n ∉ before.map Task.id ∧
    candidate id n ∉ handedOut before after place}

/-- What becomes of the task at a place. -/
inductive Outcome (before after : List Task) (place : Nat) (task : Task) : Task → Prop
  | other (hlooks : task.looksLikeTask = false) : Outcome before after place task task
  | first (hlooks : task.looksLikeTask = true) (hrank : rank before place task.id = 0) :
      Outcome before after place task task
  | later (hlooks : task.looksLikeTask = true) (hrank : rank before place task.id ≠ 0) (n : Nat)
      (hleast : IsLeast (freeNumbers before after place task.id) n) :
      Outcome before after place task { task with id := candidate task.id n }

variable {before after earlier done rest : List Task} {counts : Std.HashMap String Nat}
  {taken : IdSet} {task result : Task}

theorem candidate_ne_self (id : String) (n : Nat) : candidate id n ≠ id := by
  rw [candidate, String.append_assoc, Ne, String.append_eq_left_iff, String.append_eq_empty_iff]
  exact fun h => absurd h.1 (by decide)

theorem changedIds_append (h : earlier.length = done.length) (before after : List Task) :
    changedIds (earlier ++ before) (done ++ after) =
      changedIds earlier done ++ changedIds before after := by
  rw [changedIds, List.zip_append h, List.filterMap_append]
  rfl

theorem changedIds_same (task : Task) : changedIds [task] [task] = [] := by
  simp [changedIds]

theorem changedIds_renamed {new : String} (h : task.id ≠ new) :
    changedIds [task] [{ task with id := new }] = [⟨task.id, new⟩] := by
  simp [changedIds, h]

/-- How far the pass has come, and that it knows what is behind it. -/
structure Passed (before earlier done rest : List Task) (counts : Std.HashMap String Nat)
    (taken : IdSet) : Prop where
  split : before = earlier ++ rest
  length : earlier.length = done.length
  counted : ∀ id, counts.getD id 0 = (taskLikeIds earlier).count id
  known : ∀ id, id ∈ taken.toList ↔
    id ≠ "" ∧ (id ∈ before.map Task.id ∨ id ∈ (changedIds earlier done).map Rename.new)

namespace Passed

theorem start (before : List Task) :
    Passed before [] [] before ∅ (IdSet.ofList (before.map Task.id)) where
  split := rfl
  length := rfl
  counted _ := Std.HashMap.getD_empty
  known id := by
    rw [IdSet.mem_toList_ofList, and_comm]
    simp [changedIds]

variable (h : Passed before earlier done (task :: rest) counts taken)

include h

theorem rank_eq (id : String) : rank before earlier.length id = counts.getD id 0 := by
  rw [rank, h.split, List.take_left, h.counted]

theorem handedOut_eq (later : List Task) :
    handedOut before (done ++ later) earlier.length = (changedIds earlier done).map Rename.new := by
  rw [handedOut, h.split, List.take_left, h.length, List.take_left]

/-- The name that the search finds has the least of the free numbers. -/
theorem exists_isLeast_later (later : List Task) :
    ∃ n, IsLeast (freeNumbers before (done ++ later) earlier.length task.id) n ∧
      Duplicates.later counts taken task = candidate task.id n := by
  have hfree : ∀ n, candidate task.id n ∉ taken.toList ↔
      candidate task.id n ∉ before.map Task.id ∧
        candidate task.id n ∉ handedOut before (done ++ later) earlier.length := by
    intro n
    rw [h.known, h.handedOut_eq, and_iff_right (candidate_ne_empty task.id n), not_or]
  obtain ⟨k, hends⟩ :=
    ends_freshName (candidate_injective task.id) taken (counts.getD task.id 0)
  have hnew := hends.name_eq ▸ hends.free
  refine ⟨counts.getD task.id 0 + k, ⟨⟨?_, (hfree _).1 hnew⟩, ?_⟩, hends.name_eq⟩
  · rw [h.rank_eq]
    exact Nat.le_add_right _ k
  · rintro m ⟨hrank, hm⟩
    rw [h.rank_eq] at hrank
    by_contra hlt
    -- A smaller number would have been tried before, and its name was taken.
    obtain ⟨j, rfl⟩ := Nat.exists_eq_add_of_le hrank
    exact (hfree _).2 hm (hends.passed j (by omega))

theorem other (hlooks : task.looksLikeTask = false) :
    Passed before (earlier ++ [task]) (done ++ [task]) rest counts taken where
  split := h.split.trans (List.append_cons ..)
  length := by simp [h.length]
  counted id := by
    rw [h.counted, taskLikeIds_append, taskLikeIds_cons_of_not hlooks]
    simp [taskLikeIds]
  known id := by
    rw [h.known, changedIds_append h.length, changedIds_same, List.append_nil]

theorem counts_seen (hlooks : task.looksLikeTask = true) (id : String) :
    (seen counts task).getD id 0 = (taskLikeIds (earlier ++ [task])).count id := by
  have hlast : taskLikeIds [task] = [task.id] := taskLikeIds_cons_of_looksLikeTask hlooks
  rw [getD_seen, taskLikeIds_append, hlast, List.count_append, ← h.counted]
  split
  next heq => simp [heq]
  next hne => simp [hne]

theorem first (hlooks : task.looksLikeTask = true) :
    Passed before (earlier ++ [task]) (done ++ [task]) rest (seen counts task) taken where
  split := h.split.trans (List.append_cons ..)
  length := by simp [h.length]
  counted := h.counts_seen hlooks
  known id := by
    rw [h.known, changedIds_append h.length, changedIds_same, List.append_nil]

theorem later (hlooks : task.looksLikeTask = true) {new : String} (hne : new ≠ "")
    (hchanged : task.id ≠ new) :
    Passed before (earlier ++ [task]) (done ++ [{ task with id := new }]) rest (seen counts task)
      (taken.insert new) where
  split := h.split.trans (List.append_cons ..)
  length := by simp [h.length]
  counted := h.counts_seen hlooks
  known id := by
    rw [IdSet.mem_toList_insert, h.known, changedIds_append h.length, changedIds_renamed hchanged,
      List.map_append, List.mem_append, List.map_singleton, List.mem_singleton, ← or_assoc]
    constructor
    · rintro (⟨rfl, _⟩ | ⟨hid, hused⟩)
      · exact ⟨hne, .inr rfl⟩
      · exact ⟨hid, .inl hused⟩
    · rintro ⟨hid, hused | rfl⟩
      · exact .inr ⟨hid, hused⟩
      · exact .inl ⟨rfl, hid⟩

/-- One task: what becomes of it, what is reported of it, and how the pass goes on. -/
theorem step :
    ∃ (result : Task) (counts' : Std.HashMap String Nat) (taken' : IdSet),
      resolve counts taken (task :: rest) =
          (result :: (resolve counts' taken' rest).1,
            changedIds [task] [result] ++ (resolve counts' taken' rest).2) ∧
        (∀ later, Outcome before (done ++ later) earlier.length task result) ∧
        Passed before (earlier ++ [task]) (done ++ [result]) rest counts' taken' := by
  cases hlooks : task.looksLikeTask with
  | false =>
      refine ⟨task, counts, taken, ?_, fun _ => .other hlooks, h.other hlooks⟩
      rw [resolve_cons_other hlooks, changedIds_same, List.nil_append]
  | true =>
      by_cases hfirst : counts.getD task.id 0 = 0
      · refine ⟨task, seen counts task, taken, ?_, fun _ => ?_, h.first hlooks⟩
        · rw [resolve_cons_first hlooks hfirst, changedIds_same, List.nil_append]
        · exact .first hlooks ((h.rank_eq task.id).trans hfirst)
      · have hrank : rank before earlier.length task.id ≠ 0 := by rwa [h.rank_eq]
        have hchanged : task.id ≠ Duplicates.later counts taken task := by
          obtain ⟨n, _, hname⟩ := h.exists_isLeast_later []
          exact hname ▸ (candidate_ne_self task.id n).symm
        refine ⟨_, _, _, ?_, fun later => ?_,
          h.later hlooks (later_ne_empty counts taken task) hchanged⟩
        · rw [resolve_cons_later hlooks hfirst, changedIds_renamed hchanged]
          rfl
        · obtain ⟨n, hleast, hname⟩ := h.exists_isLeast_later later
          rw [hname]
          exact .later hlooks hrank n hleast

end Passed

/-- The rest of the pass, by the tasks that are left. -/
theorem outcome_resolve (h : Passed before earlier done rest counts taken) {i : Nat}
    (htask : rest[i]? = some task) :
    ∃ result, (resolve counts taken rest).1[i]? = some result ∧
      Outcome before (done ++ (resolve counts taken rest).1) (earlier.length + i) task result := by
  induction rest generalizing earlier done counts taken i with
  | nil => cases htask
  | cons next rest ih =>
      obtain ⟨result, counts', taken', hresolve, houtcome, hpassed⟩ := h.step
      rw [hresolve]
      cases i with
      | zero =>
          cases htask
          exact ⟨result, rfl, houtcome _⟩
      | succ i =>
          obtain ⟨final, hfinal, hlater⟩ := ih hpassed htask
          refine ⟨final, hfinal, ?_⟩
          rw [← List.append_cons] at hlater
          rwa [List.length_append, List.length_singleton, Nat.add_assoc, Nat.add_comm 1 i] at hlater

theorem renames_resolve (h : Passed before earlier done rest counts taken) :
    (resolve counts taken rest).2 = changedIds rest (resolve counts taken rest).1 := by
  induction rest generalizing earlier done counts taken with
  | nil => rfl
  | cons next rest ih =>
      obtain ⟨result, counts', taken', hresolve, _, hpassed⟩ := h.step
      have hlength : [next].length = [result].length := rfl
      rw [hresolve, ih hpassed]
      exact (changedIds_append hlength rest _).symm

theorem mem_handedOut {i place : Nat} (hlt : i < place) (htask : before[i]? = some task)
    (hresult : after[i]? = some result) (hchanged : task.id ≠ result.id) :
    result.id ∈ handedOut before after place := by
  have hpair : (task, result) ∈ (before.take place).zip (after.take place) := by
    apply List.mem_of_getElem? (i := i)
    rw [List.getElem?_zip_eq_some, List.getElem?_take_of_lt hlt, List.getElem?_take_of_lt hlt]
    exact ⟨htask, hresult⟩
  apply List.mem_map.2
  exact ⟨⟨task.id, result.id⟩, List.mem_filterMap.2 ⟨_, hpair, if_neg hchanged⟩, rfl⟩

theorem Outcome.new_of_changed {place : Nat} (h : Outcome before after place task result)
    (hchanged : task.id ≠ result.id) :
    result.id ∉ before.map Task.id ∧ result.id ∉ handedOut before after place := by
  cases h with
  | other => exact absurd rfl hchanged
  | first => exact absurd rfl hchanged
  | later _ _ n hleast => exact hleast.1.2

/-- A new name is no other task's: whichever of the two names was given later was chosen apart from
the other. -/
theorem eq_of_changed_id {i j : Nat} {other final : Task}
    (houtcome : ∀ (i : Nat) (task result : Task), before[i]? = some task →
      after[i]? = some result → Outcome before after i task result)
    (htask : before[i]? = some task) (hresult : after[i]? = some result)
    (hchanged : task.id ≠ result.id) (hother : before[j]? = some other)
    (hfinal : after[j]? = some final) (hid : final.id = result.id) : j = i := by
  obtain ⟨hunused, hnew⟩ := (houtcome i _ _ htask hresult).new_of_changed hchanged
  have hrenamed : other.id ≠ final.id := by
    intro hsame
    apply hunused
    rw [← hid, ← hsame]
    exact List.mem_map_of_mem (List.mem_of_getElem? hother)
  obtain ⟨_, hlater⟩ := (houtcome j _ _ hother hfinal).new_of_changed hrenamed
  rcases Nat.lt_trichotomy j i with hlt | heq | hlt
  · exact absurd (mem_handedOut hlt hother hfinal hrenamed) (hid ▸ hnew)
  · exact heq
  · exact absurd (mem_handedOut hlt htask hresult hchanged) (hid ▸ hlater)

end Duplicates

namespace Store

theorem doc_dedupe (store : Store) : store.dedupe.1.doc = store.doc.deduped := by
  change (if store.doc.resolved.2.isEmpty then _ else _ : Store).doc = _
  split <;> rfl

theorem snd_dedupe (store : Store) : store.dedupe.2 = store.doc.resolved.2 := rfl

theorem outcome_dedupe (store : Store) {place : Nat} {task result : Task}
    (htask : store.doc.tasks[place]? = some task)
    (hresult : store.dedupe.1.doc.tasks[place]? = some result) :
    Duplicates.Outcome store.doc.tasks store.dedupe.1.doc.tasks place task result := by
  obtain ⟨_, hgiven, houtcome⟩ :=
    Duplicates.outcome_resolve (Duplicates.Passed.start store.doc.tasks) htask
  rw [List.length_nil, Nat.zero_add, List.nil_append] at houtcome
  rw [store.doc_dedupe] at hresult ⊢
  cases hresult.symm.trans hgiven
  exact houtcome

theorem dedupe_of_distinctTasks {store : Store} (h : store.doc.DistinctTasks) :
    store.dedupe = (store, []) := by
  change ((if store.doc.resolved.2.isEmpty then store.modify fun _ => store.doc.deduped else _),
    store.doc.resolved.2) = _
  rw [Document.deduped_of_distinctTasks h, Document.resolved_of_distinctTasks h]
  rfl

end Store

/-- Whatever looks like a task keeps its ID if it is the first to have it, and else gets the least
suffix that is free, from its rank on; nothing else changes.  Then all that look like tasks have
different IDs, a new name is the ID of one task only, the renames are those told place by place, and
the next pass finds nothing to do. -/
theorem copies_named_by_least_suffix (store : Store) :
    let before := store.doc.tasks
    let deduped := store.dedupe.1
    let after := deduped.doc.tasks
    deduped.doc = { store.doc with tasks := after } ∧ after.length = before.length ∧
      (∀ (i : Nat) (task result : Task), before[i]? = some task → after[i]? = some result →
        Duplicates.Outcome before after i task result) ∧
      (Duplicates.taskLikeIds after).Nodup ∧
      (∀ (i j : Nat) (task result other : Task), before[i]? = some task →
        after[i]? = some result → task.id ≠ result.id → after[j]? = some other →
        other.id = result.id → j = i) ∧
      store.dedupe.2 = Duplicates.changedIds before after ∧ deduped.dedupe = (deduped, []) := by
  intro before deduped after
  have hdoc : deduped.doc = store.doc.deduped := store.doc_dedupe
  have hafter : after = store.doc.resolved.1 := congrArg Document.tasks hdoc
  have hstart := Duplicates.Passed.start before
  have hlength : after.length = before.length := by
    rw [hafter]
    exact (Duplicates.forall₂_resolve _ _ _).length_eq.symm
  have houtcome : ∀ (i : Nat) (task result : Task), before[i]? = some task →
      after[i]? = some result → Duplicates.Outcome before after i task result :=
    fun _ _ _ htask hresult => store.outcome_dedupe htask hresult
  have hdistinct : deduped.doc.DistinctTasks := hdoc ▸ Document.distinctTasks_deduped store.doc
  refine ⟨?_, hlength, houtcome, hdistinct, ?_, ?_, Store.dedupe_of_distinctTasks hdistinct⟩
  · rw [hafter, hdoc]
    rfl
  · intro i j task result other htask hresult hchanged hother hid
    obtain ⟨hlt, _⟩ := List.getElem?_eq_some_iff.1 hother
    have hformer := List.getElem?_eq_getElem (hlength ▸ hlt)
    exact Duplicates.eq_of_changed_id houtcome htask hresult hchanged hformer hother hid
  · rw [store.snd_dedupe, hafter]
    exact Duplicates.renames_resolve hstart

end MockCluster
