import MockCluster.Proofs.IdSet
import MockCluster.Proofs.Repair.Renames
import MockCluster.Proofs.Repair.Suffixes

/-!
The searches for free names in the two passes that hand names out: each ends at the least suffix
that is free, and what it finds is taken for the searches that follow.
-/

namespace MockCluster

open FreshName (Ends Search)

namespace Renames

variable {services taken : IdSet} {ids : List String} {place : Nat} {rename : Rename}

/-- What is taken once some replacements have been chosen. -/
def takenAfter (taken : IdSet) (renames : List Rename) : IdSet :=
  (renames.map Rename.new).foldl IdSet.insert taken

theorem ends_plan (h : (plan services taken ids)[place]? = some rename) :
    ∃ failures, Ends (takenAfter taken ((plan services taken ids).take place))
      (candidate rename.old) 0 failures rename.new := by
  induction ids generalizing taken place with
  | nil => cases h
  | cons id rest ih =>
      by_cases hcollides : services.contains id = true
      · rw [plan_cons_of_collides hcollides] at h ⊢
        cases place with
        | zero =>
            cases h
            exact ends_freshName (candidate_injective id) taken 0
        | succ place => exact ih h
      · rw [plan, if_neg hcollides] at h ⊢
        exact ih h

end Renames

namespace Duplicates

variable {before after : List Task} {place : Nat} {task result : Task}

/-- What is taken when the pass comes to a place: the IDs in use, and the names handed out. -/
def takenAt (before after : List Task) (place : Nat) : IdSet :=
  IdSet.ofList (before.map Task.id ++ handedOut before after place)

theorem candidate_mem_takenAt {id : String} {n : Nat} :
    candidate id n ∈ (takenAt before after place).toList ↔
      candidate id n ∈ before.map Task.id ∨ candidate id n ∈ handedOut before after place := by
  rw [takenAt, IdSet.mem_toList_ofList, List.mem_append, and_iff_left (candidate_ne_empty id n)]

theorem Outcome.ends (h : Outcome before after place task result) (hchanged : task.id ≠ result.id) :
    ∃ failures, Ends (takenAt before after place) (candidate task.id) (rank before place task.id)
      failures result.id := by
  cases h with
  | other => exact absurd rfl hchanged
  | first => exact absurd rfl hchanged
  | later _ _ n hleast =>
      obtain ⟨⟨hrank, hunused, hnew⟩, hlower⟩ := hleast
      obtain ⟨failures, rfl⟩ := Nat.exists_eq_add_of_le hrank
      refine ⟨failures, Search.ends (candidate_injective task.id) (FreshName.search_iff.2 ?_)⟩
      refine ⟨rfl, ?_, ?_⟩
      · rw [candidate_mem_takenAt, not_or]
        exact ⟨hunused, hnew⟩
      · intro j hj
        by_contra hfree
        rw [candidate_mem_takenAt, not_or] at hfree
        -- A smaller number would be free as well.
        have hle := hlower ⟨Nat.le_add_right _ j, hfree⟩
        omega

end Duplicates

namespace Store

/-- What no replacement may be: the IDs of nodes, and all that names a service. -/
def knownNames (store : Store) : IdSet :=
  (store.index.knownIds .node).foldl IdSet.insert store.serviceNames

theorem mem_knownNames {store : Store} {id : String} (hne : id ≠ "")
    (h : id ∈ store.index.knownIds .node ∨ id ∈ store.index.knownIds .service ∨
      id ∈ store.doc.nodeKeys ∧ id ≠ Grouping.unassignedKey) : id ∈ store.knownNames.toList := by
  rw [knownNames, IdSet.mem_toList_foldl, serviceNames, IdSet.mem_toList_foldl, List.mem_filter,
    decide_eq_true_iff]
  rcases h with hnode | hservice | hkey
  · exact .inl ⟨hnode, hne⟩
  · exact .inr (.inr hservice)
  · exact .inr (.inl ⟨hkey, hne⟩)

end Store

/-- Both searches end, whatever is taken, at the least suffix that is free, after no more failures
than there are taken names.  So it is at each place of the two passes, where the names handed out
before are taken too; and so no two nodes get the same new ID, and none gets an ID that a node or a
service is known by. -/
theorem searches_end_at_first_free (store : Store) :
    let renames := store.plannedRenames
    let before := store.doc.tasks
    let after := store.dedupe.1.doc.tasks
    (∀ (taken : IdSet) (id : String),
      (∃ failures, Ends taken (Renames.candidate id) 0 failures
        (freshName taken (Renames.candidate id) 0)) ∧
      ∀ start, ∃ failures, Ends taken (Duplicates.candidate id) start failures
        (freshName taken (Duplicates.candidate id) start)) ∧
    (∀ (place : Nat) (rename : Rename), renames[place]? = some rename →
      ∃ failures, Ends (Renames.takenAfter store.knownNames (renames.take place))
        (Renames.candidate rename.old) 0 failures rename.new) ∧
    (∀ (place : Nat) (task result : Task), before[place]? = some task →
      after[place]? = some result → task.id ≠ result.id →
      ∃ failures, Ends (Duplicates.takenAt before after place) (Duplicates.candidate task.id)
        (Duplicates.rank before place task.id) failures result.id) ∧
    (renames.map Rename.new).Nodup ∧
    ∀ rename ∈ renames, rename.new ∉ store.index.knownIds .node ∧
      rename.new ∉ store.index.knownIds .service ∧
      ∀ key ∈ store.doc.nodeKeys, key ≠ Grouping.unassignedKey → rename.new ≠ key := by
  intro renames before after
  have hfresh : Renames.Fresh store.knownNames renames := Renames.fresh_plan _ _ _
  refine ⟨fun taken id => ⟨?_, fun start => ?_⟩, ?_, ?_, hfresh.nodup, ?_⟩
  · exact ends_freshName (Renames.candidate_injective id) taken 0
  · exact ends_freshName (Duplicates.candidate_injective id) taken start
  · intro place rename hplace
    exact Renames.ends_plan hplace
  · intro place task result htask hresult hchanged
    exact (store.outcome_dedupe htask hresult).ends hchanged
  · intro rename hmem
    have hne := hfresh.new_ne_empty rename hmem
    have hnew := hfresh.new_not_taken rename hmem
    refine ⟨fun hnode => ?_, fun hservice => ?_, ?_⟩
    · exact hnew (Store.mem_knownNames hne (.inl hnode))
    · exact hnew (Store.mem_knownNames hne (.inr (.inl hservice)))
    · rintro key hkey hassigned rfl
      exact hnew (Store.mem_knownNames hne (.inr (.inr ⟨hkey, hassigned⟩)))

/-- What one search finds is the first choice of the next: the new ID of a node for another node, and
the ID of a task for the copy of another. -/
def crossing : Document where
  nodes := [{ id := "x" }, { id := "x-1" }]
  services := [{ id := "x" }, { id := "x-1" }, { id := "node-x" }]
  tasks := [{ id := "a", slot := some 1 }, { id := "a-dup1", slot := some 1 },
    { id := "a", slot := some 2 }]

theorem renames_crossing :
    (Store.of "" crossing).plannedRenames = [⟨"x", "node-x-1"⟩, ⟨"x-1", "node-x-1-1"⟩] := by
  have hnodes : (Store.of "" crossing).index.knownIds .node = ["x", "x-1"] := by
    change (IdSet.ofList ["x", "x-1"]).toList = _
    rw [IdSet.toList_ofList]
    decide
  have hservices : ∀ id, id ∈ (Store.of "" crossing).serviceNames.toList ↔
      id ∈ ["x", "x-1", "node-x"] ∧ id ≠ "" := fun id => IdSet.mem_toList_ofList
  have hfirst : freshName (["x", "x-1"].foldl IdSet.insert (Store.of "" crossing).serviceNames)
      (Renames.candidate "x") 0 = "node-x-1" := by
    apply freshName_eq_of_search (Renames.candidate_injective "x")
    refine .next ?_ (.found ?_) <;> rw [IdSet.mem_toList_foldl, hservices] <;> decide
  have hsecond : freshName
      ((["x", "x-1"].foldl IdSet.insert (Store.of "" crossing).serviceNames).insert "node-x-1")
      (Renames.candidate "x-1") 0 = "node-x-1-1" := by
    apply freshName_eq_of_search (Renames.candidate_injective "x-1")
    refine .next ?_ (.found ?_) <;>
      rw [IdSet.mem_toList_insert, IdSet.mem_toList_foldl, hservices] <;> decide
  have hcollides : ∀ id ∈ ["x", "x-1"], (Store.of "" crossing).serviceNames.contains id = true := by
    intro id hmem
    rw [IdSet.contains_iff, hservices]
    revert id
    decide
  rw [Store.plannedRenames, hnodes, Renames.plan_cons_of_collides (hcollides "x" (by decide)),
    hfirst, Renames.plan_cons_of_collides (hcollides "x-1" (by decide)), hsecond]
  rfl

theorem tasks_dedupe_crossing :
    (Store.of "" crossing).dedupe.1.doc.tasks =
      [{ id := "a", slot := some 1 }, { id := "a-dup1", slot := some 1 },
        { id := "a-dup2", slot := some 2 }] := by
  have hfirst : (Duplicates.seen ∅ { id := "a", slot := some 1 }).getD "a-dup1" 0 = 0 := by
    rw [Duplicates.getD_seen, if_neg (by decide), Std.HashMap.getD_empty]
  have hlater : (Duplicates.seen (Duplicates.seen ∅ { id := "a", slot := some 1 })
      { id := "a-dup1", slot := some 1 }).getD "a" 0 = 1 := by
    rw [Duplicates.getD_seen, if_neg (by decide), Duplicates.getD_seen, if_pos rfl,
      Std.HashMap.getD_empty]
  have hname : Duplicates.later (Duplicates.seen (Duplicates.seen ∅ { id := "a", slot := some 1 })
      { id := "a-dup1", slot := some 1 }) (IdSet.ofList crossing.taskIds)
      { id := "a", slot := some 2 } = "a-dup2" := by
    rw [Duplicates.later, hlater]
    apply freshName_eq_of_search (Duplicates.candidate_injective "a")
    refine .next ?_ (.found ?_) <;> rw [IdSet.mem_toList_ofList] <;> decide
  rw [Store.doc_dedupe]
  change (Duplicates.resolve ∅ (IdSet.ofList crossing.taskIds) [_, _, _]).1 = _
  rw [Duplicates.resolve_cons_first rfl Std.HashMap.getD_empty,
    Duplicates.resolve_cons_first rfl hfirst,
    Duplicates.resolve_cons_later rfl (hlater ▸ Nat.one_ne_zero), hname]
  rfl

/-- The numbers go on from names that have been handed out as from those in use before. -/
theorem searches_end_crossing :
    let store := Store.of "" crossing
    let after := store.dedupe.1.doc.tasks
    store.plannedRenames = [⟨"x", "node-x-1"⟩, ⟨"x-1", "node-x-1-1"⟩] ∧
      (∃ failures, Ends (Renames.takenAfter store.knownNames [⟨"x", "node-x-1"⟩])
        (Renames.candidate "x-1") 0 failures "node-x-1-1") ∧
      after.map Task.id = ["a", "a-dup1", "a-dup2"] ∧
      (∃ failures, Ends (Duplicates.takenAt crossing.tasks after 2) (Duplicates.candidate "a") 1
        failures "a-dup2") ∧
      "node-x-1-1" ∉ store.index.knownIds .service := by
  intro store after
  have hrenames : store.plannedRenames = [⟨"x", "node-x-1"⟩, ⟨"x-1", "node-x-1-1"⟩] :=
    renames_crossing
  have hafter : after = _ := tasks_dedupe_crossing
  obtain ⟨_, hplan, hdedupe, _, hapart⟩ := searches_end_at_first_free store
  refine ⟨hrenames, ?_, by rw [hafter]; rfl, ?_, ?_⟩
  · have hsecond := hplan 1 ⟨"x-1", "node-x-1-1"⟩ (by rw [hrenames]; rfl)
    rwa [hrenames] at hsecond
  · exact hdedupe 2 { id := "a", slot := some 2 } { id := "a-dup2", slot := some 2 } rfl
      (by rw [tasks_dedupe_crossing]; rfl) (by decide)
  · exact (hapart ⟨"x-1", "node-x-1-1"⟩ (by rw [hrenames]; decide)).2.1

end MockCluster
