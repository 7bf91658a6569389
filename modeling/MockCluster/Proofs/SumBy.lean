import Mathlib.Data.List.Basic

/-!
What the items of a list count for, taken together.
-/

namespace MockCluster

variable {α β : Type}

def sumBy (amount : α → Nat) : (items : List α) → Nat
  | [] => 0
  | first :: rest => amount first + sumBy amount rest

variable (amount other : α → Nat)

@[simp] theorem sumBy_nil : sumBy amount [] = 0 := rfl

@[simp] theorem sumBy_cons (first : α) (rest : List α) :
    sumBy amount (first :: rest) = amount first + sumBy amount rest := rfl

@[simp] theorem sumBy_append (first second : List α) :
    sumBy amount (first ++ second) = sumBy amount first + sumBy amount second := by
  induction first with
  | nil => exact (Nat.zero_add _).symm
  | cons item rest ih => rw [List.cons_append, sumBy_cons, sumBy_cons, ih, Nat.add_assoc]

@[simp] theorem sumBy_map (f : β → α) (items : List β) :
    sumBy amount (items.map f) = sumBy (fun item => amount (f item)) items := by
  induction items with
  | nil => rfl
  | cons first rest ih => rw [List.map_cons, sumBy_cons, sumBy_cons, ih]

@[simp] theorem sumBy_flatMap (f : β → List α) (items : List β) :
    sumBy amount (items.flatMap f) = sumBy (fun item => sumBy amount (f item)) items := by
  induction items with
  | nil => rfl
  | cons first rest ih => rw [List.flatMap_cons, sumBy_append, ih, sumBy_cons]

@[simp] theorem sumBy_filterMap (f : β → Option α) (items : List β) :
    sumBy amount (items.filterMap f) = sumBy (fun item => sumBy amount (f item).toList) items := by
  induction items with
  | nil => rfl
  | cons first rest ih =>
      rw [List.filterMap_cons, sumBy_cons, ← ih]
      cases f first with
      | none => exact (Nat.zero_add _).symm
      | some found => rfl

@[simp] theorem sumBy_add (items : List α) :
    sumBy (fun item => amount item + other item) items = sumBy amount items + sumBy other items := by
  induction items with
  | nil => rfl
  | cons first rest ih =>
      simp only [sumBy_cons, ih]
      omega

/-- Items that count for nothing may be left out. -/
theorem sumBy_filter_ne_zero (items : List α) :
    sumBy amount (items.filter fun item => amount item ≠ 0) = sumBy amount items := by
  induction items with
  | nil => rfl
  | cons first rest ih =>
      by_cases hzero : amount first = 0
      · rw [List.filter_cons_of_neg (by simpa using hzero), ih, sumBy_cons, hzero, Nat.zero_add]
      · rw [List.filter_cons_of_pos (by simpa using hzero), sumBy_cons, ih, sumBy_cons]

theorem sumBy_eq_count (item : String) (items : List String) :
    sumBy (fun other => if other = item then 1 else 0) items = items.count item := by
  induction items with
  | nil => rfl
  | cons first rest ih =>
      rw [sumBy_cons, ih, List.count_cons, Nat.add_comm]
      simp

section

variable {amount other}

theorem sumBy_eq_zero (h : ∀ item, amount item = 0) (items : List α) : sumBy amount items = 0 := by
  induction items with
  | nil => rfl
  | cons first rest ih => rw [sumBy_cons, h, ih]

theorem sumBy_zero (items : List α) : sumBy (fun _ => 0) items = 0 :=
  sumBy_eq_zero (fun _ => rfl) items

theorem sumBy_le (h : ∀ item, amount item ≤ other item) (items : List α) :
    sumBy amount items ≤ sumBy other items := by
  induction items with
  | nil => exact Nat.le_refl 0
  | cons first rest ih => exact Nat.add_le_add (h first) ih

theorem sumBy_pos_iff {items : List α} :
    0 < sumBy amount items ↔ ∃ item ∈ items, 0 < amount item := by
  induction items with
  | nil => simp
  | cons first rest ih =>
      rw [sumBy_cons, List.exists_mem_cons_iff, ← ih]
      omega

end

theorem sumBy_perm {first second : List α} (h : first.Perm second) :
    sumBy amount first = sumBy amount second := by
  induction h with
  | nil => rfl
  | cons item _ ih => rw [sumBy_cons, sumBy_cons, ih]
  | swap item next rest => exact Nat.add_left_comm _ _ _
  | trans _ _ ih ih' => exact ih.trans ih'

end MockCluster
