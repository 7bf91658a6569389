import Mathlib.Data.List.Nodup
import MockCluster.KeyedList
import MockCluster.OrderedMap

/-!
A map is known by its lookups: two maps that find the same values are equal.
-/

namespace MockCluster.OrderedMap

variable {α β γ : Type}

theorem nodup_keys (m : OrderedMap α) : m.keys.Nodup := by
  apply m.sorted.imp
  rintro first _ hlt rfl
  exact String.lt_irrefl _ hlt

theorem mem_entries_iff {m : OrderedMap α} {key : String} {value : α} :
    (key, value) ∈ m.entries ↔ m.find? key = some value := by
  obtain ⟨entries, hsorted⟩ := m
  simp only [find?]
  induction entries with
  | nil => simp
  | cons entry rest ih =>
      obtain ⟨first, held⟩ := entry
      simp only [List.map_cons, List.pairwise_cons] at hsorted
      have habsent : ∀ other, (first, other) ∉ rest := fun other hmem =>
        String.lt_irrefl _ (hsorted.1 first (List.mem_map_of_mem (f := Prod.fst) hmem))
      by_cases h : key = first
      · subst h
        simp [habsent, eq_comm]
      · have hne : (key == first) = false := by simpa using h
        simp [List.lookup_cons, h, hne, ih hsorted.2]

theorem mem_keys_iff {m : OrderedMap α} {key : String} :
    key ∈ m.keys ↔ ∃ value, m.find? key = some value := by
  simp [keys, mem_entries_iff]

theorem mem_values_iff {m : OrderedMap α} {value : α} :
    value ∈ m.values ↔ ∃ key, m.find? key = some value := by
  simp [values, mem_entries_iff]

theorem find?_eq_none_iff {m : OrderedMap α} {key : String} :
    m.find? key = none ↔ key ∉ m.keys := by
  rw [mem_keys_iff, ← Option.ne_none_iff_exists', not_not]

theorem ext_find? {m n : OrderedMap α} (h : ∀ key, m.find? key = n.find? key) : m = n := by
  have hperm : m.entries.Perm n.entries := by
    refine (List.perm_ext_iff_of_nodup (List.Nodup.of_map _ m.nodup_keys)
      (List.Nodup.of_map _ n.nodup_keys)).2 ?_
    intro hgiven
    obtain ⟨key, value⟩ := hgiven
    rw [mem_entries_iff, mem_entries_iff, h]
  -- Both lists are sorted, so a permutation leaves no choice.
  refine ext (hperm.eq_of_pairwise ?_ (List.pairwise_map.1 m.sorted) (List.pairwise_map.1 n.sorted))
  intro a b _ _ hab hba
  exact absurd hba (String.lt_asymm hab)

theorem mem_entries_insert {m : OrderedMap α} {key : String} {value : α} {entry : String × α}
    (h : entry ∈ (m.insert key value).entries) : entry = (key, value) ∨ entry ∈ m.entries := by
  obtain ⟨other, held⟩ := entry
  rw [mem_entries_iff, find?_insert] at h
  split at h
  next heq =>
    cases h
    exact .inl (by rw [heq])
  next => exact .inr (mem_entries_iff.2 h)

theorem find?_foldl_insert {entries : List (String × α)} (h : (entries.map Prod.fst).Nodup)
    (m : OrderedMap α) (key : String) :
    (entries.foldl (fun m entry => m.insert entry.1 entry.2) m).find? key =
      (entries.lookup key).or (m.find? key) := by
  induction entries generalizing m with
  | nil => rfl
  | cons entry rest ih =>
      obtain ⟨first, value⟩ := entry
      obtain ⟨habsent, hrest⟩ := List.nodup_cons.1 h
      rw [List.foldl_cons, ih hrest, find?_insert, List.lookup_cons]
      by_cases heq : key = first
      · subst heq
        have hnone : rest.lookup key = none := by
          rw [List.lookup_eq_none_iff]
          intro other hother
          have hne : key ≠ other.1 := fun hkey =>
            habsent (List.mem_map.2 ⟨other, hother, hkey.symm⟩)
          simpa using hne
        simp [hnone]
      · have hne : (key == first) = false := by simpa using heq
        rw [if_neg heq, hne]

/-- The entries of a map, inserted again, give the map. -/
theorem ofList_entries (m : OrderedMap α) : ofList m.entries = m := by
  apply ext_find?
  intro key
  rw [ofList, find?_foldl_insert m.nodup_keys, find?_empty, Option.or_none]
  rfl

@[simp] theorem find?_map (f : α → β) (m : OrderedMap α) (key : String) :
    (m.map f).find? key = (m.find? key).map f := by
  simp only [map, find?]
  induction m.entries with
  | nil => rfl
  | cons entry rest ih =>
      obtain ⟨first, value⟩ := entry
      by_cases h : key = first
      · simp [h]
      · have hne : (key == first) = false := by simpa using h
        simp [List.lookup_cons, hne, ih]

theorem find?_erase (m : OrderedMap α) (key other : String) :
    (m.erase key).find? other = if other = key then none else m.find? other :=
  KeyedList.lookup_filter_ne key other m.entries

@[simp] theorem keys_map (f : α → β) (m : OrderedMap α) : (m.map f).keys = m.keys := by
  simp [keys, map, Function.comp_def]

@[simp] theorem values_map (f : α → β) (m : OrderedMap α) :
    (m.map f).values = m.values.map f := by
  simp [values, map, Function.comp_def]

theorem map_map (f : α → β) (g : β → γ) (m : OrderedMap α) :
    (m.map f).map g = m.map fun value => g (f value) := by
  apply ext_find?
  simp [Function.comp_def]

theorem map_congr {f g : α → β} {m : OrderedMap α}
    (h : ∀ value ∈ m.values, f value = g value) : m.map f = m.map g := by
  apply ext_find?
  intro key
  rw [find?_map, find?_map]
  cases hfind : m.find? key with
  | none => rfl
  | some value => simp [h value (mem_values_iff.2 ⟨key, hfind⟩)]

theorem map_eq_self {f : α → α} {m : OrderedMap α}
    (h : ∀ value ∈ m.values, f value = value) : m.map f = m := by
  apply ext_find?
  intro key
  rw [find?_map]
  cases hfind : m.find? key with
  | none => rfl
  | some value => simp [h value (mem_values_iff.2 ⟨key, hfind⟩)]

@[simp] theorem map_empty (f : α → β) : (∅ : OrderedMap α).map f = ∅ := rfl

@[simp] theorem keys_empty : (∅ : OrderedMap α).keys = [] := rfl

theorem eq_empty_iff {m : OrderedMap α} : m = ∅ ↔ m.keys = [] := by
  constructor
  · intro heq
    subst heq
    rfl
  · intro h
    apply ext_find?
    intro key
    rw [find?_empty, find?_eq_none_iff, h]
    simp

theorem map_update (m : OrderedMap α) (key : String) (f : Option α → α) (f' : Option β → β)
    (g : α → β) (h : ∀ held, g (f held) = f' (held.map g)) :
    (m.update key f).map g = (m.map g).update key f' := by
  apply ext_find?
  intro other
  simp only [find?_map, find?_update]
  split
  · simp [h]
  · rfl

theorem update_ne_empty (m : OrderedMap α) (key : String) (f : Option α → α) :
    m.update key f ≠ ∅ := by
  intro h
  have hfind := find?_update m key key f
  rw [h, find?_empty, if_pos rfl] at hfind
  cases hfind

/-- An update that adds items to those of one entry adds them to those of the map. -/
theorem flatMap_update_perm {items : String × α → List β} {key : String} {f : Option α → α}
    {added : List β} (hnone : (items (key, f none)).Perm added)
    (hsome : ∀ value, (items (key, f (some value))).Perm (items (key, value) ++ added))
    (m : OrderedMap α) :
    ((m.update key f).entries.flatMap items).Perm (m.entries.flatMap items ++ added) := by
  simp only [update]
  induction m.entries with
  | nil => simpa [updateEntries] using hnone
  | cons entry rest ih =>
      obtain ⟨first, value⟩ := entry
      rw [updateEntries]
      split
      · rw [List.flatMap_cons]
        exact (hnone.append_right _).trans List.perm_append_comm
      · split
        next heq =>
          subst heq
          simp only [List.flatMap_cons, List.append_assoc]
          refine ((hsome value).append_right _).trans ?_
          rw [List.append_assoc]
          exact List.Perm.append_left _ List.perm_append_comm
        next =>
          simp only [List.flatMap_cons, List.append_assoc]
          exact List.Perm.append_left _ ih

end MockCluster.OrderedMap
