import Std.Data.HashSet.Lemmas

/-!
Sets of IDs that keep the order in which the IDs were first seen.

The empty string names nothing, so it never becomes a member.
-/

namespace MockCluster

structure IdSet where
  ordered : Array String
  members : Std.HashSet String
  mem_members_iff : ∀ id, id ∈ members ↔ id ∈ ordered.toList
  nodup : ordered.toList.Nodup

namespace IdSet

def empty : IdSet := ⟨#[], ∅, by simp, by simp⟩

instance : EmptyCollection IdSet := ⟨empty⟩

instance : Inhabited IdSet := ⟨empty⟩

def toList (s : IdSet) : List String := s.ordered.toList

def contains (s : IdSet) (id : String) : Bool := s.members.contains id

theorem contains_iff {s : IdSet} {id : String} : s.contains id = true ↔ id ∈ s.toList := by
  rw [contains, Std.HashSet.contains_iff_mem]
  exact s.mem_members_iff id

def insert (s : IdSet) (id : String) : IdSet :=
  if id = "" then s
  else if h : id ∈ s.members then s
  else
    { ordered := s.ordered.push id
      members := s.members.insert id
      mem_members_iff := by
        intro other
        simp only [Std.HashSet.mem_insert, s.mem_members_iff other, beq_iff_eq, Array.toList_push,
          List.mem_append, List.mem_singleton]
        constructor
        · rintro (rfl | h)
          · exact .inr rfl
          · exact .inl h
        · rintro (h | rfl)
          · exact .inr h
          · exact .inl rfl
      nodup := by
        rw [Array.toList_push, List.nodup_append]
        refine ⟨s.nodup, by simp, ?_⟩
        rintro a ha b hb rfl
        rw [List.mem_singleton] at hb
        subst hb
        exact h ((s.mem_members_iff _).2 ha) }

def ofList (ids : List String) : IdSet := ids.foldl insert ∅

@[simp] theorem toList_empty : (∅ : IdSet).toList = [] := rfl

theorem toList_insert (s : IdSet) (id : String) :
    (s.insert id).toList = if id = "" ∨ id ∈ s.toList then s.toList else s.toList ++ [id] := by
  have hmem := s.mem_members_iff id
  simp only [toList] at *
  unfold insert
  split
  · simp [*]
  · split <;> simp_all

theorem mem_toList_insert {s : IdSet} {id other : String} :
    other ∈ (s.insert id).toList ↔ (other = id ∧ id ≠ "") ∨ other ∈ s.toList := by
  rw [toList_insert]
  split
  next h =>
    rcases h with h | h
    · simp [h]
    · constructor
      · exact .inr
      · rintro (⟨rfl, _⟩ | h')
        · exact h
        · exact h'
  next h =>
    rw [not_or] at h
    simp [h.1, or_comm]

theorem mem_toList_foldl {s : IdSet} {ids : List String} {id : String} :
    id ∈ (ids.foldl insert s).toList ↔ (id ∈ ids ∧ id ≠ "") ∨ id ∈ s.toList := by
  induction ids generalizing s with
  | nil => simp
  | cons first rest ih =>
      rw [List.foldl_cons, ih, mem_toList_insert, List.mem_cons]
      constructor
      · rintro (⟨h, hne⟩ | ⟨rfl, hne⟩ | h)
        · exact .inl ⟨.inr h, hne⟩
        · exact .inl ⟨.inl rfl, hne⟩
        · exact .inr h
      · rintro (⟨rfl | h, hne⟩ | h)
        · exact .inr (.inl ⟨rfl, hne⟩)
        · exact .inl ⟨h, hne⟩
        · exact .inr (.inr h)

theorem mem_toList_ofList {ids : List String} {id : String} :
    id ∈ (ofList ids).toList ↔ id ∈ ids ∧ id ≠ "" := by
  simp [ofList, mem_toList_foldl]

end IdSet

/-- The IDs that occur more than once, in the order of their second occurrences. -/
def repeatedIds (ids : List String) : List String :=
  go ∅ ∅ ids
where
  go (seen repeated : IdSet) : List String → List String
    | [] => repeated.toList
    | id :: rest =>
      if seen.contains id then go seen (repeated.insert id) rest
      else go (seen.insert id) repeated rest

end MockCluster
