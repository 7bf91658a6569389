import Mathlib.Data.List.Nodup
import Mathlib.Data.List.Perm.Subperm
import MockCluster.FreshName
import MockCluster.Repair.Duplicates
import MockCluster.Repair.Renames
import Std.Data.String.ToNat

/-!
The search for a name that is not taken ends at the first one, provided that no two candidates are
equal.
-/

namespace MockCluster

namespace FreshName

variable {taken : IdSet} {candidate : Nat → String} {start n failures other : Nat}
  {name another : String}

/-- The search without a bound: it passes over taken candidates, one after another, and ends at the
first that is free. -/
inductive Search (taken : IdSet) (candidate : Nat → String) : (n failures : Nat) → String → Prop
  | found {n : Nat} (hfree : candidate n ∉ taken.toList) : Search taken candidate n 0 (candidate n)
  | next {n failures : Nat} {name : String} (htaken : candidate n ∈ taken.toList)
      (hrest : Search taken candidate (n + 1) failures name) :
      Search taken candidate n (failures + 1) name

theorem search_iff :
    Search taken candidate n failures name ↔
      name = candidate (n + failures) ∧ name ∉ taken.toList ∧
        ∀ j < failures, candidate (n + j) ∈ taken.toList := by
  constructor
  · intro hsearch
    induction hsearch with
    | found hfree => exact ⟨rfl, hfree, by simp⟩
    | next htaken _ ih =>
        obtain ⟨hname, hfree, hpassed⟩ := ih
        refine ⟨Nat.succ_add_eq_add_succ _ _ ▸ hname, hfree, ?_⟩
        intro j hj
        cases j with
        | zero => exact htaken
        | succ j => exact Nat.succ_add_eq_add_succ _ j ▸ hpassed j (by omega)
  · rintro ⟨hname, hfree, hpassed⟩
    induction failures generalizing n with
    | zero =>
        subst hname
        exact .found hfree
    | succ failures ih =>
        refine .next (hpassed 0 (by omega)) (ih ?_ ?_)
        · rw [Nat.succ_add_eq_add_succ]
          exact hname
        · intro j hj
          rw [Nat.succ_add_eq_add_succ]
          exact hpassed (j + 1) (by omega)

theorem Search.unique (h : Search taken candidate n failures name)
    (h' : Search taken candidate n other another) : failures = other ∧ name = another := by
  induction h generalizing other with
  | found hfree =>
      cases h' with
      | found => exact ⟨rfl, rfl⟩
      | next htaken _ => exact absurd htaken hfree
  | next htaken _ ih =>
      cases h' with
      | found hfree => exact absurd htaken hfree
      | next _ hrest =>
          obtain ⟨hfailures, hname⟩ := ih hrest
          exact ⟨congrArg Nat.succ hfailures, hname⟩

/-- The search passes over taken candidates only, and stops at one that is free or after all
tries. -/
theorem probe_stops (taken : IdSet) (candidate : Nat → String) (tries n : Nat) :
    ∃ k ≤ tries, probe taken candidate tries n = candidate (n + k) ∧
      (∀ j < k, candidate (n + j) ∈ taken.toList) ∧
      (k < tries → candidate (n + k) ∉ taken.toList) := by
  induction tries generalizing n with
  | zero => exact ⟨0, Nat.le_refl 0, rfl, by simp, by simp⟩
  | succ tries ih =>
      rw [probe]
      split
      next htaken =>
        obtain ⟨k, hle, heq, hpassed, hfree⟩ := ih (n + 1)
        rw [Nat.succ_add_eq_add_succ] at heq hfree
        refine ⟨k + 1, Nat.succ_le_succ hle, heq, ?_, ?_⟩
        · intro j hj
          cases j with
          | zero => exact IdSet.contains_iff.1 htaken
          | succ j =>
              have hearlier := hpassed j (by omega)
              rwa [Nat.succ_add_eq_add_succ] at hearlier
        · intro hlt
          exact hfree (by omega)
      next hfree =>
        refine ⟨0, Nat.zero_le _, rfl, by simp, ?_⟩
        intro _ hmem
        exact hfree (IdSet.contains_iff.2 hmem)

/-- The candidates passed over are different taken names. -/
theorem passed_le (hinjective : Function.Injective candidate)
    (hpassed : ∀ j < failures, candidate (start + j) ∈ taken.toList) :
    failures ≤ taken.toList.length := by
  have hnodup : ((List.range failures).map fun j => candidate (start + j)).Nodup := by
    apply List.Nodup.map ?_ List.nodup_range
    intro i j hij
    exact Nat.add_left_cancel (hinjective hij)
  have hsubset : (List.range failures).map (fun j => candidate (start + j)) ⊆ taken.toList := by
    intro name hmem
    obtain ⟨j, hj, rfl⟩ := List.mem_map.1 hmem
    exact hpassed j (List.mem_range.1 hj)
  simpa using (hnodup.subperm hsubset).length_le

/-- How a search ends: at the first candidate that is free, after no more failures than there are
taken names. -/
structure Ends (taken : IdSet) (candidate : Nat → String) (start failures : Nat) (name : String) :
    Prop where
  search : Search taken candidate start failures name
  failures_le : failures ≤ taken.toList.length
  name_eq : name = candidate (start + failures)
  free : name ∉ taken.toList
  passed : ∀ j < failures, candidate (start + j) ∈ taken.toList

theorem Search.ends (hinjective : Function.Injective candidate)
    (h : Search taken candidate start failures name) : Ends taken candidate start failures name := by
  obtain ⟨hname, hfree, hpassed⟩ := search_iff.1 h
  exact ⟨h, passed_le hinjective hpassed, hname, hfree, hpassed⟩

end FreshName

/-- There are fewer taken names than tries, so the search does not run out of them, and its result is
that of the search without a bound. -/
theorem search_freshName {candidate : Nat → String} (hinjective : Function.Injective candidate)
    (taken : IdSet) (start : Nat) :
    ∃ failures, FreshName.Search taken candidate start failures
      (freshName taken candidate start) := by
  obtain ⟨k, _, heq, hpassed, hfree⟩ :=
    FreshName.probe_stops taken candidate (taken.toList.length + 1) start
  have hbound := FreshName.passed_le hinjective hpassed
  rw [← heq] at hfree
  exact ⟨k, FreshName.search_iff.2 ⟨heq, hfree (by omega), hpassed⟩⟩

theorem ends_freshName {candidate : Nat → String} (hinjective : Function.Injective candidate)
    (taken : IdSet) (start : Nat) :
    ∃ failures, FreshName.Ends taken candidate start failures (freshName taken candidate start) := by
  obtain ⟨failures, hsearch⟩ := search_freshName hinjective taken start
  exact ⟨failures, hsearch.ends hinjective⟩

theorem freshName_eq_of_search {candidate : Nat → String}
    (hinjective : Function.Injective candidate) {taken : IdSet} {start failures : Nat}
    {name : String} (h : FreshName.Search taken candidate start failures name) :
    freshName taken candidate start = name := by
  obtain ⟨_, hsearch⟩ := search_freshName hinjective taken start
  exact (hsearch.unique h).2

theorem freshName_not_mem {candidate : Nat → String} (hinjective : Function.Injective candidate)
    (taken : IdSet) (start : Nat) : freshName taken candidate start ∉ taken.toList := by
  obtain ⟨_, hends⟩ := ends_freshName hinjective taken start
  exact hends.free

theorem exists_freshName_eq (taken : IdSet) (candidate : Nat → String) (start : Nat) :
    ∃ n ≥ start, freshName taken candidate start = candidate n := by
  obtain ⟨k, _, heq, _⟩ :=
    FreshName.probe_stops taken candidate (taken.toList.length + 1) start
  exact ⟨start + k, Nat.le_add_right start k, heq⟩

theorem freshName_eq_of_not_mem {taken : IdSet} {candidate : Nat → String} {start : Nat}
    (h : candidate start ∉ taken.toList) : freshName taken candidate start = candidate start := by
  rw [freshName, FreshName.probe, if_neg]
  exact fun htaken => h (IdSet.contains_iff.1 htaken)

namespace Renames

theorem candidate_injective (id : String) : Function.Injective (candidate id) := by
  have hsuffix : ∀ n : Nat, candidate id (n + 1) ≠ candidate id 0 := by
    intro n heq
    rw [candidate, candidate, String.append_assoc, String.append_eq_left_iff,
      String.append_eq_empty_iff] at heq
    exact absurd heq.1 (by decide)
  intro m n heq
  cases m with
  | zero =>
      cases n with
      | zero => rfl
      | succ n => exact absurd heq.symm (hsuffix n)
  | succ m =>
      cases n with
      | zero => exact absurd heq (hsuffix m)
      | succ n =>
          simp only [candidate, String.append_right_inj] at heq
          exact Nat.repr_injective heq

theorem candidate_ne_empty (id : String) (n : Nat) : candidate id n ≠ "" := by
  cases n <;> simp [candidate, String.append_eq_empty_iff]

end Renames

namespace Duplicates

theorem candidate_injective (id : String) : Function.Injective (candidate id) := by
  intro m n heq
  rw [candidate, candidate, String.append_right_inj] at heq
  exact Nat.repr_injective heq

theorem candidate_ne_empty (id : String) (n : Nat) : candidate id n ≠ "" := by
  simp [candidate, String.append_eq_empty_iff]

end Duplicates

end MockCluster
