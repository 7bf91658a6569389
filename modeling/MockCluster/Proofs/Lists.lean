import Mathlib.Algebra.GroupWithZero.Nat
import Mathlib.Data.Finset.Card
import Mathlib.Data.List.Induction

/-!
Lists in general: first occurrences, and maps that pick from a list.
-/

namespace MockCluster

variable {α β γ : Type}

section EraseDups

variable [DecidableEq α] [DecidableEq β]

theorem eraseDups_concat (items : List α) (item : α) :
    (items ++ [item]).eraseDups =
      if item ∈ items then items.eraseDups else items.eraseDups ++ [item] := by
  rw [List.eraseDups_append]
  split
  next hseen => simp [List.removeAll, hseen]
  next hnew => simp [List.removeAll, hnew, List.eraseDups_cons]

theorem filter_eraseDups (p : α → Bool) (items : List α) :
    items.eraseDups.filter p = (items.filter p).eraseDups := by
  induction items using List.reverseRecOn with
  | nil => rfl
  | append_singleton items item ih =>
      rw [eraseDups_concat, List.filter_append, apply_ite (List.filter p), List.filter_append, ih]
      by_cases hitem : p item = true
      · rw [List.filter_cons_of_pos hitem, List.filter_nil, eraseDups_concat]
        simp only [List.mem_filter, hitem, and_true]
      · rw [List.filter_cons_of_neg hitem, List.filter_nil, List.append_nil, List.append_nil,
          ite_self]

theorem eraseDups_map {f : α → β} (hf : Function.Injective f) (items : List α) :
    (items.map f).eraseDups = items.eraseDups.map f := by
  induction items using List.reverseRecOn with
  | nil => rfl
  | append_singleton items item ih =>
      rw [List.map_append, List.map_singleton, eraseDups_concat, eraseDups_concat, ih,
        apply_ite (List.map f), List.map_append, List.map_singleton]
      simp only [List.mem_map_of_injective hf]

theorem nodup_eraseDups (items : List α) : items.eraseDups.Nodup := by
  induction items using List.reverseRecOn with
  | nil => exact List.nodup_nil
  | append_singleton items item ih =>
      rw [eraseDups_concat]
      split
      next => exact ih
      next hnew =>
        refine List.nodup_append.2 ⟨ih, List.nodup_singleton item, ?_⟩
        rintro first hfirst _ hlast rfl
        rw [List.mem_singleton.1 hlast] at hfirst
        exact hnew (List.mem_eraseDups.1 hfirst)

theorem length_eraseDups (items : List α) : items.eraseDups.length = items.toFinset.card := by
  have hset : items.eraseDups.toFinset = items.toFinset := by
    ext item
    simp
  rw [← hset, List.toFinset_card_of_nodup (nodup_eraseDups items)]

end EraseDups

theorem pairwise_idxOf [DecidableEq α] {items : List α} (h : items.Nodup) :
    items.Pairwise fun first second => items.idxOf first < items.idxOf second := by
  apply List.pairwise_iff_getElem.2
  intro i j hi hj hlt
  rwa [h.idxOf_getElem, h.idxOf_getElem]

theorem findSome?_flatMap (f : α → List β) (g : β → Option γ) (items : List α) :
    (items.flatMap f).findSome? g = items.findSome? fun item => (f item).findSome? g := by
  induction items with
  | nil => rfl
  | cons first rest ih =>
      rw [List.flatMap_cons, List.findSome?_append, ih, List.findSome?_cons]
      cases (f first).findSome? g <;> rfl

theorem flatMap_ite_singleton (p : α → Prop) [DecidablePred p] (f : α → β) (items : List α) :
    items.flatMap (fun item => if p item then [f item] else []) = (items.filter p).map f := by
  induction items with
  | nil => rfl
  | cons first rest ih =>
      rw [List.flatMap_cons, ih, List.filter_cons]
      by_cases hfirst : p first <;> simp [hfirst]

theorem filterMap_append_perm {f g : α → Option β} (items : List α)
    (hapart : ∀ item, f item = none ∨ g item = none) :
    (items.filterMap f ++ items.filterMap g).Perm
      (items.filterMap fun item => (f item).or (g item)) := by
  induction items with
  | nil => exact List.Perm.refl _
  | cons item rest ih =>
      rcases hapart item with hf | hg
      · cases hg : g item with
        | none => simpa [hf, hg] using ih
        | some image =>
            simp only [List.filterMap_cons, hf, hg, Option.none_or]
            exact List.perm_middle.trans (ih.cons image)
      · cases hf : f item with
        | none => simpa [hf, hg] using ih
        | some image => simpa [hf, hg] using ih

/-- What is left out of a sum by who knows the last item only. -/
theorem sum_map_eq_last_add (f : α → Nat) (items : List α) :
    (items.map f).sum = (items.getLast?.map f).getD 0 + (items.dropLast.map f).sum := by
  cases items using List.reverseRecOn with
  | nil => rfl
  | append_singleton earlier last => simp [Nat.add_comm]

theorem sum_map_eq_zero_iff (f : α → Nat) (items : List α) :
    (items.map f).sum = 0 ↔ ∀ item ∈ items, f item = 0 := by
  rw [List.sum_eq_zero_iff_forall_eq_nat, List.forall_mem_map]

end MockCluster
