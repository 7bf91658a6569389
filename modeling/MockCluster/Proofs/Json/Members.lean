import MockCluster.Json.Value
import MockCluster.Proofs.Lists

/-!
Members that are set one after another: each key stands once, at its first place, with its last
value.
-/

namespace MockCluster.Members

variable {pairs : List (String × Json)}

theorem ofList_concat (pairs : List (String × Json)) (pair : String × Json) :
    ofList (pairs ++ [pair]) = (ofList pairs).set pair.1 pair.2 := by
  rw [ofList, List.foldl_append]
  rfl

theorem keys_ofList (pairs : List (String × Json)) :
    (ofList pairs).keys = (keys pairs).eraseDups := by
  induction pairs using List.reverseRecOn with
  | nil => rfl
  | append_singleton pairs pair ih =>
      have hkeys : keys (pairs ++ [pair]) = keys pairs ++ [pair.1] := List.map_append
      have hheld : pair.1 ∈ (ofList pairs).keys ↔ pair.1 ∈ keys pairs := by
        rw [ih, List.mem_eraseDups]
      rw [ofList_concat, hkeys, eraseDups_concat, ← ih, set]
      by_cases h : pair.1 ∈ keys pairs
      · rw [if_pos h]
        exact KeyedList.keys_put_of_mem _ (hheld.2 h)
      · rw [if_neg h, KeyedList.put_of_absent _ (mt hheld.1 h)]
        exact List.map_append

theorem nodup_keys_ofList (pairs : List (String × Json)) : (ofList pairs).keys.Nodup := by
  rw [keys_ofList]
  exact nodup_eraseDups _

theorem ofList_eq_self (h : (keys pairs).Nodup) : ofList pairs = pairs :=
  KeyedList.foldl_put [] h

theorem mem_of_mem_ofList {member : String × Json} (h : member ∈ ofList pairs) :
    member ∈ pairs := by
  induction pairs using List.reverseRecOn with
  | nil => cases h
  | append_singleton pairs pair ih =>
      rw [ofList_concat] at h
      rcases KeyedList.mem_put h with rfl | h
      · exact List.mem_append_right _ (List.mem_singleton_self _)
      · exact List.mem_append_left _ (ih h)

theorem get?_ofList (pairs : List (String × Json)) (name : String) :
    (ofList pairs).get? name = pairs.reverse.lookup name := by
  induction pairs using List.reverseRecOn with
  | nil => rfl
  | append_singleton pairs pair ih =>
      rw [ofList_concat, get?_set, ih, List.reverse_append, List.reverse_singleton,
        List.singleton_append, List.lookup_cons]
      by_cases h : name = pair.1
      · simp [h]
      · have hne : (name == pair.1) = false := by simpa using h
        simp [h, hne]

theorem mem_ofList_iff {name : String} {value : Json} :
    (name, value) ∈ ofList pairs ↔ pairs.reverse.lookup name = some value := by
  rw [← get?_ofList]
  exact KeyedList.mem_iff_lookup (nodup_keys_ofList pairs)

theorem lookup_reverse_eq_none_iff {name : String} :
    pairs.reverse.lookup name = none ↔ name ∉ keys pairs := by
  rw [List.lookup_eq_none_iff, keys, List.mem_map, not_exists]
  refine forall_congr' fun member => ?_
  rw [List.mem_reverse, bne_iff_ne, not_and, ne_comm]

/-- A member counts if no later one has its key. -/
theorem ofList_cons_perm (pair : String × Json) (pairs : List (String × Json)) :
    (ofList (pair :: pairs)).Perm
      (if pair.1 ∈ keys pairs then ofList pairs else pair :: ofList pairs) := by
  have hnodup : ∀ pairs, (ofList pairs).Nodup := fun pairs => (nodup_keys_ofList pairs).of_map _
  have hmem : ∀ name value, (name, value) ∈ ofList (pair :: pairs) ↔
      (name, value) ∈ ofList pairs ∨ name ∉ keys pairs ∧ (name, value) = pair := by
    intro name value
    have hlast : [pair].lookup name = some value ↔ (name, value) = pair := by
      have hkeys : ([pair].map Prod.fst).Nodup := List.nodup_singleton pair.1
      rw [← KeyedList.mem_iff_lookup hkeys, List.mem_singleton]
    rw [mem_ofList_iff, mem_ofList_iff, List.reverse_cons, List.lookup_append,
      Option.or_eq_some_iff, lookup_reverse_eq_none_iff, hlast]
  split
  next hlater =>
    refine (List.perm_ext_iff_of_nodup (hnodup _) (hnodup _)).2 fun (name, value) => ?_
    rw [hmem, or_iff_left]
    rintro ⟨habsent, rfl⟩
    exact habsent hlater
  next hlast =>
    have hnew : pair ∉ ofList pairs := fun hpair =>
      hlast (List.mem_map_of_mem (mem_of_mem_ofList hpair))
    refine (List.perm_ext_iff_of_nodup (hnodup _) ((hnodup _).cons hnew)).2 fun (name, value) => ?_
    rw [hmem, List.mem_cons, or_comm, and_iff_right_of_imp]
    rintro rfl
    exact hlast

end MockCluster.Members
