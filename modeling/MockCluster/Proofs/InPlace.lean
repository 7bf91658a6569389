import Mathlib.Data.List.Forall2

/-!
Lists that change in place: what was at a position has its successor there, whatever came behind.
-/

namespace MockCluster

/-- Every item of the first list has its successor in the same place of the second one. -/
def InPlace {α : Type} (r : α → α → Prop) (before after : List α) : Prop :=
  ∀ (i : Nat) (item : α), before[i]? = some item → ∃ item', after[i]? = some item' ∧ r item item'

namespace InPlace

variable {α : Type} {r : α → α → Prop}

theorem of_map {f : α → α} (h : ∀ item, r item (f item)) (items : List α) :
    InPlace r items (items.map f) := by
  intro i item hitem
  exact ⟨f item, by rw [List.getElem?_map, hitem]; rfl, h item⟩

theorem refl (h : ∀ item, r item item) (items : List α) : InPlace r items items :=
  fun _ item hitem => ⟨item, hitem, h item⟩

theorem cons {item item' : α} {before after : List α} (hitem : r item item')
    (h : InPlace r before after) : InPlace r (item :: before) (item' :: after) := by
  intro i other hother
  cases i with
  | zero =>
      cases hother
      exact ⟨item', rfl, hitem⟩
  | succ i => exact h i other hother

theorem of_forall₂ {before after : List α} (h : List.Forall₂ r before after) :
    InPlace r before after := by
  induction h with
  | nil =>
      intro i item hitem
      cases hitem
  | cons hitem _ ih => exact ih.cons hitem

theorem of_append {before added after : List α} (h : InPlace r (before ++ added) after) :
    InPlace r before after := by
  intro i item hitem
  obtain ⟨hlt, _⟩ := List.getElem?_eq_some_iff.1 hitem
  exact h i item (by rw [List.getElem?_append_left hlt, hitem])

theorem append {before after : List α} (h : InPlace r before after) (added : List α) :
    InPlace r before (after ++ added) := by
  intro i item hitem
  obtain ⟨item', hitem', hrel⟩ := h i item hitem
  obtain ⟨hlt, _⟩ := List.getElem?_eq_some_iff.1 hitem'
  exact ⟨item', by rw [List.getElem?_append_left hlt, hitem'], hrel⟩

theorem trans {r' r'' : α → α → Prop} {first second third : List α} (h : InPlace r first second)
    (h' : InPlace r' second third) (hrel : ∀ item item' item'', r item item' → r' item' item'' →
      r'' item item'') : InPlace r'' first third := by
  intro i item hitem
  obtain ⟨item', hitem', hitems⟩ := h i item hitem
  obtain ⟨item'', hitem'', hitems'⟩ := h' i item' hitem'
  exact ⟨item'', hitem'', hrel _ _ _ hitems hitems'⟩

theorem of_initial {before after : List α} (h : before <+: after) (hrefl : ∀ item, r item item) :
    InPlace r before after := by
  obtain ⟨added, rfl⟩ := h
  exact (InPlace.refl hrefl before).append added

theorem exists_of_mem {before after : List α} (h : InPlace r before after) {item : α}
    (hmem : item ∈ before) : ∃ item' ∈ after, r item item' := by
  obtain ⟨i, hitem⟩ := List.getElem?_of_mem hmem
  obtain ⟨item', hitem', hrel⟩ := h i item hitem
  exact ⟨item', List.mem_of_getElem? hitem', hrel⟩

end InPlace

end MockCluster
