import MockCluster.IdSet
import MockCluster.Proofs.Lists

/-!
In which order a set of IDs lists its members, and which IDs a list repeats.
-/

namespace MockCluster

theorem IdSet.toList_ofList (ids : List String) :
    (ofList ids).toList = (ids.filter (· ≠ "")).eraseDups := by
  induction ids using List.reverseRecOn with
  | nil => rfl
  | append_singleton ids id ih =>
      have hlast : (ofList (ids ++ [id])).toList = ((ofList ids).insert id).toList := by
        rw [ofList, List.foldl_append]
        rfl
      rw [hlast, toList_insert, ih, List.filter_append]
      by_cases hempty : id = ""
      · simp [hempty]
      · by_cases hseen : id ∈ ids <;> simp [hempty, hseen, eraseDups_concat]

/-- The IDs at the places where they stand for the second time. -/
def secondSeen (ids : List String) : List String :=
  (List.range ids.length).filterMap fun i =>
    ids[i]?.filter fun id => id ≠ "" ∧ (ids.take i).count id = 1

theorem secondSeen_concat (ids : List String) (id : String) :
    secondSeen (ids ++ [id]) =
      secondSeen ids ++ if id ≠ "" ∧ ids.count id = 1 then [id] else [] := by
  have hearlier : (List.range ids.length).filterMap (fun i =>
      (ids ++ [id])[i]?.filter fun other => other ≠ "" ∧
        ((ids ++ [id]).take i).count other = 1) = secondSeen ids := by
    apply List.filterMap_congr
    intro i hi
    have hlt := List.mem_range.1 hi
    rw [List.getElem?_append_left hlt, List.take_append_of_le_length (Nat.le_of_lt hlt)]
  have hlast : (ids ++ [id]).take ids.length = ids := List.take_left' rfl
  rw [secondSeen, List.length_append, List.length_singleton, List.range_succ,
    List.filterMap_append, hearlier, List.filterMap_cons, List.getElem?_concat_length, hlast]
  by_cases hsecond : id ≠ "" ∧ ids.count id = 1
  · rw [if_pos hsecond, Option.filter_some_pos (by simpa using hsecond)]
    rfl
  · rw [if_neg hsecond, Option.filter_some_neg (by simpa using hsecond)]
    rfl

theorem mem_secondSeen {ids : List String} {id : String} :
    id ∈ secondSeen ids ↔ id ≠ "" ∧ 2 ≤ ids.count id := by
  induction ids using List.reverseRecOn with
  | nil => simp [secondSeen]
  | append_singleton ids other ih =>
      rw [secondSeen_concat, List.mem_append, ih, List.count_append]
      by_cases heq : other = id
      · subst heq
        have hlast : (other ∈ if other ≠ "" ∧ ids.count other = 1 then [other] else []) ↔
            other ≠ "" ∧ ids.count other = 1 := by
          split <;> simp_all
        rw [hlast, List.count_singleton_self, ← and_or_left]
        exact and_congr_right fun _ => by omega
      · have hcount : List.count id [other] = 0 := by simp [heq]
        have hlast : id ∉ if other ≠ "" ∧ ids.count other = 1 then [other] else [] := by
          split <;> simp [Ne.symm heq]
        rw [or_iff_left hlast, hcount, Nat.add_zero]

theorem nodup_secondSeen (ids : List String) : (secondSeen ids).Nodup := by
  induction ids using List.reverseRecOn with
  | nil => exact List.nodup_nil
  | append_singleton ids id ih =>
      rw [secondSeen_concat]
      split
      next hsecond =>
        refine List.nodup_append.2 ⟨ih, by simp, ?_⟩
        intro earlier hmem last hlast heq
        have hcount := (mem_secondSeen.1 hmem).2
        rw [heq, List.mem_singleton.1 hlast] at hcount
        omega
      next => rwa [List.append_nil]

/-- The search goes on with what it has seen in the list before. -/
theorem repeatedIds_go (seen repeated : IdSet) (earlier rest : List String)
    (hseen : ∀ id, id ∈ seen.toList ↔ id ∈ earlier ∧ id ≠ "")
    (hrepeated : repeated.toList = secondSeen earlier) :
    repeatedIds.go seen repeated rest = secondSeen (earlier ++ rest) := by
  induction rest generalizing seen repeated earlier with
  | nil => rw [repeatedIds.go, hrepeated, List.append_nil]
  | cons id rest ih =>
      rw [repeatedIds.go, List.append_cons]
      split
      next hcontains =>
        obtain ⟨hmem, hne⟩ := (hseen id).1 (IdSet.contains_iff.1 hcontains)
        apply ih
        · intro other
          rw [hseen, List.mem_append, List.mem_singleton]
          constructor
          · exact fun h => ⟨.inl h.1, h.2⟩
          · rintro ⟨h | rfl, hother⟩
            · exact ⟨h, hother⟩
            · exact ⟨hmem, hother⟩
        · have hcount : 1 ≤ earlier.count id := List.one_le_count_iff.2 hmem
          have hsecond : id ∈ secondSeen earlier ↔ id ≠ "" ∧ 2 ≤ earlier.count id := mem_secondSeen
          rw [IdSet.toList_insert, hrepeated, secondSeen_concat]
          by_cases honce : earlier.count id = 1
          · rw [if_neg (by simp [hne, hsecond, honce]), if_pos ⟨hne, honce⟩]
          · rw [if_pos (.inr (hsecond.2 ⟨hne, by omega⟩)), if_neg (by simp [honce]),
              List.append_nil]
      next hcontains =>
        have hnew : id ∈ earlier → id = "" := by
          intro hmem
          by_contra hne
          exact hcontains (IdSet.contains_iff.2 ((hseen id).2 ⟨hmem, hne⟩))
        apply ih
        · intro other
          rw [IdSet.mem_toList_insert, hseen, List.mem_append, List.mem_singleton]
          constructor
          · rintro (⟨rfl, hne⟩ | ⟨h, hother⟩)
            · exact ⟨.inr rfl, hne⟩
            · exact ⟨.inl h, hother⟩
          · rintro ⟨h | rfl, hother⟩
            · exact .inr ⟨h, hother⟩
            · exact .inl ⟨rfl, hother⟩
        · have hfirst : ¬ (id ≠ "" ∧ earlier.count id = 1) := by
            rintro ⟨hne, honce⟩
            exact hne (hnew (List.count_pos_iff.1 (by omega)))
          rw [secondSeen_concat, if_neg hfirst, List.append_nil, hrepeated]

theorem repeatedIds_eq (ids : List String) : repeatedIds ids = secondSeen ids :=
  repeatedIds_go ∅ ∅ [] ids (by simp) rfl

end MockCluster
