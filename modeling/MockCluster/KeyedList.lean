/-!
Lists of keys and values, in the order in which the keys came.
-/

namespace MockCluster.KeyedList

variable {α β : Type} [DecidableEq α]

/-- Gives a key its value; a new key comes last. -/
def put (key : α) (value : β) : List (α × β) → List (α × β)
  | [] => [(key, value)]
  | (other, old) :: rest =>
    if other = key then (key, value) :: rest else (other, old) :: put key value rest

@[simp] theorem put_nil (key : α) (value : β) : put key value [] = [(key, value)] := rfl

theorem mem_put {key : α} {value : β} {pairs : List (α × β)} {pair : α × β}
    (h : pair ∈ put key value pairs) : pair = (key, value) ∨ pair ∈ pairs := by
  induction pairs with
  | nil => exact .inl (List.mem_singleton.1 h)
  | cons first rest ih =>
      rw [put] at h
      split at h <;> simp only [List.mem_cons] at h ⊢
      · exact h.imp_right .inr
      · rcases h with h | h
        · exact .inr (.inl h)
        · exact (ih h).imp_right .inr

theorem put_of_absent {key : α} {pairs : List (α × β)} (value : β)
    (h : key ∉ pairs.map Prod.fst) : put key value pairs = pairs ++ [(key, value)] := by
  induction pairs with
  | nil => rfl
  | cons first rest ih =>
      simp only [List.map_cons, List.mem_cons, not_or] at h
      rw [put, if_neg (Ne.symm h.1), ih h.2]
      rfl

theorem foldl_put (held : List (α × β)) {pairs : List (α × β)}
    (h : ((held ++ pairs).map Prod.fst).Nodup) :
    pairs.foldl (fun held pair => put pair.1 pair.2 held) held = held ++ pairs := by
  induction pairs generalizing held with
  | nil => simp
  | cons pair rest ih =>
      have habsent : pair.1 ∉ held.map Prod.fst := by
        simp only [List.map_append, List.map_cons, List.nodup_append] at h
        exact fun hmem => h.2.2 pair.1 hmem pair.1 List.mem_cons_self rfl
      rw [List.foldl_cons, put_of_absent pair.2 habsent, ih _ (by simpa using h), List.append_assoc]
      rfl

theorem keys_put_of_mem {key : α} {pairs : List (α × β)} (value : β)
    (h : key ∈ pairs.map Prod.fst) : (put key value pairs).map Prod.fst = pairs.map Prod.fst := by
  induction pairs with
  | nil => cases h
  | cons first rest ih =>
      rw [put]
      split
      next heq => rw [List.map_cons, List.map_cons, heq]
      next hne =>
        have hrest : key ∈ rest.map Prod.fst :=
          (List.mem_cons.1 h).resolve_left fun heq => hne heq.symm
        rw [List.map_cons, List.map_cons, ih hrest]

theorem nodup_put (key : α) (value : β) {pairs : List (α × β)}
    (h : (pairs.map Prod.fst).Nodup) : ((put key value pairs).map Prod.fst).Nodup := by
  by_cases hmem : key ∈ pairs.map Prod.fst
  · rw [keys_put_of_mem value hmem]
    exact h
  · rw [put_of_absent value hmem, List.map_append, List.map_cons, List.map_nil,
      List.nodup_append]
    refine ⟨h, List.nodup_cons.2 ⟨List.not_mem_nil, List.nodup_nil⟩, ?_⟩
    rintro _ hfirst _ hlast rfl
    cases List.mem_singleton.1 hlast
    exact hmem hfirst

theorem mem_iff_lookup [BEq α] [LawfulBEq α] {pairs : List (α × β)}
    (h : (pairs.map Prod.fst).Nodup) {key : α} {value : β} :
    (key, value) ∈ pairs ↔ pairs.lookup key = some value := by
  induction pairs with
  | nil => simp
  | cons pair rest ih =>
      obtain ⟨first, held⟩ := pair
      obtain ⟨hnew, hrest⟩ := List.nodup_cons.1 h
      rw [List.mem_cons, ih hrest, List.lookup_cons]
      by_cases hkey : key = first
      · subst hkey
        have hnone : rest.lookup key ≠ some value := fun hfound =>
          hnew (List.mem_map.2 ⟨_, (ih hrest).2 hfound, rfl⟩)
        simp [hnone, eq_comm]
      · have hne : (key == first) = false := by simpa using hkey
        simp [hkey, hne]

theorem lookup_put [BEq α] [LawfulBEq α] (key other : α) (value : β) (pairs : List (α × β)) :
    (put key value pairs).lookup other =
      if other = key then some value else pairs.lookup other := by
  induction pairs with
  | nil =>
      by_cases h : other = key
      · simp [put, h]
      · have hne : (other == key) = false := by simpa using h
        simp [put, List.lookup_cons, h, hne]
  | cons pair rest ih =>
      obtain ⟨first, old⟩ := pair
      by_cases hfirst : first = key
      · subst hfirst
        by_cases h : other = first
        · simp [put, h]
        · have hne : (other == first) = false := by simpa using h
          simp [put, List.lookup_cons, h, hne]
      · by_cases h : other = first
        · subst h
          simp [put, hfirst]
        · have hne : (other == first) = false := by simpa using h
          simp [put, List.lookup_cons, hfirst, hne, ih]

theorem lookup_filter_ne [BEq α] [LawfulBEq α] (key other : α) (pairs : List (α × β)) :
    (pairs.filter fun pair => pair.1 ≠ key).lookup other =
      if other = key then none else pairs.lookup other := by
  induction pairs with
  | nil => simp
  | cons pair rest ih =>
      obtain ⟨first, value⟩ := pair
      by_cases hfirst : first = key
      · subst hfirst
        rw [List.filter_cons_of_neg (by simp), ih]
        by_cases h : other = first
        · rw [if_pos h, if_pos h]
        · have hne : (other == first) = false := by simpa using h
          rw [if_neg h, if_neg h, List.lookup_cons, hne]
      · rw [List.filter_cons_of_pos (by simpa using hfirst), List.lookup_cons, List.lookup_cons, ih]
        by_cases h : other = first
        · subst h
          simp [hfirst]
        · have hne : (other == first) = false := by simpa using h
          rw [hne]

end MockCluster.KeyedList
