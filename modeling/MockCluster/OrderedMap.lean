/-!
Finite maps from strings, kept as entries in increasing order of their keys.

The order is part of the type, so two maps with the same entries are equal.  Keys are compared by
code points, which is also the order of their bytes.
-/

namespace MockCluster

structure OrderedMap (α : Type) where
  entries : List (String × α)
  sorted : (entries.map Prod.fst).Pairwise (· < ·)

namespace OrderedMap

variable {α β : Type}

@[ext] theorem ext {m n : OrderedMap α} (h : m.entries = n.entries) : m = n := by
  cases m
  cases n
  simp_all

instance [DecidableEq α] : DecidableEq (OrderedMap α) := fun m n =>
  if h : m.entries = n.entries then isTrue (ext h) else isFalse fun e => h (e ▸ rfl)

instance [Repr α] : Repr (OrderedMap α) := ⟨fun m p => reprPrec m.entries p⟩

def empty : OrderedMap α := ⟨[], List.Pairwise.nil⟩

instance : EmptyCollection (OrderedMap α) := ⟨empty⟩

instance : Inhabited (OrderedMap α) := ⟨empty⟩

def isEmpty (m : OrderedMap α) : Bool := m.entries.isEmpty

def size (m : OrderedMap α) : Nat := m.entries.length

def keys (m : OrderedMap α) : List String := m.entries.map Prod.fst

def values (m : OrderedMap α) : List α := m.entries.map Prod.snd

def find? (m : OrderedMap α) (key : String) : Option α := m.entries.lookup key

def contains (m : OrderedMap α) (key : String) : Bool := (m.find? key).isSome

def updateEntries (key : String) (f : Option α → α) : List (String × α) → List (String × α)
  | [] => [(key, f none)]
  | (other, value) :: rest =>
    if key < other then (key, f none) :: (other, value) :: rest
    else if key = other then (key, f (some value)) :: rest
    else (other, value) :: updateEntries key f rest

theorem mem_keys_updateEntries {key other : String} {f : Option α → α}
    {entries : List (String × α)}
    (h : other ∈ (updateEntries key f entries).map Prod.fst) :
    other = key ∨ other ∈ entries.map Prod.fst := by
  induction entries with
  | nil => simpa [updateEntries] using h
  | cons entry rest ih =>
      obtain ⟨first, value⟩ := entry
      rw [updateEntries] at h
      split at h
      · simpa using h
      · split at h
        · simp at h
          rcases h with h | h
          · exact .inl h
          · exact .inr (by simp [h])
        · simp only [List.map_cons, List.mem_cons] at h ⊢
          rcases h with h | h
          · exact .inr (.inl h)
          · rcases ih h with h | h
            · exact .inl h
            · exact .inr (.inr h)

theorem sorted_updateEntries (key : String) (f : Option α → α) {entries : List (String × α)}
    (h : (entries.map Prod.fst).Pairwise (· < ·)) :
    ((updateEntries key f entries).map Prod.fst).Pairwise (· < ·) := by
  induction entries with
  | nil => simp [updateEntries]
  | cons entry rest ih =>
      obtain ⟨first, value⟩ := entry
      simp only [List.map_cons, List.pairwise_cons] at h
      rw [updateEntries]
      split
      next hlt =>
        simp only [List.map_cons, List.pairwise_cons, List.mem_cons]
        refine ⟨?_, h.1, h.2⟩
        rintro other (rfl | hmem)
        · exact hlt
        · exact String.lt_trans hlt (h.1 other hmem)
      next hlt =>
        split
        next heq =>
          subst heq
          simpa using h
        next hne =>
          simp only [List.map_cons, List.pairwise_cons]
          refine ⟨fun other hmem => ?_, ih h.2⟩
          rcases mem_keys_updateEntries hmem with rfl | hmem
          · rcases Decidable.em (first < other) with hfirst | hfirst
            · exact hfirst
            · exact absurd (String.le_antisymm (String.not_lt.1 hfirst) (String.not_lt.1 hlt)) hne
          · exact h.1 other hmem

def update (m : OrderedMap α) (key : String) (f : Option α → α) : OrderedMap α :=
  ⟨updateEntries key f m.entries, sorted_updateEntries key f m.sorted⟩

def insert (m : OrderedMap α) (key : String) (value : α) : OrderedMap α :=
  m.update key fun _ => value

def erase (m : OrderedMap α) (key : String) : OrderedMap α where
  entries := m.entries.filter fun entry => entry.1 ≠ key
  sorted := List.Pairwise.sublist (List.Sublist.map Prod.fst List.filter_sublist) m.sorted

/-- Entries inserted one after another: the last value of a key counts. -/
def ofList (entries : List (String × α)) : OrderedMap α :=
  entries.foldl (fun m entry => m.insert entry.1 entry.2) ∅

def map (f : α → β) (m : OrderedMap α) : OrderedMap β where
  entries := m.entries.map fun entry => (entry.1, f entry.2)
  sorted := by simpa [List.map_map, Function.comp_def] using m.sorted

def mapEntriesM {m : Type → Type} [Monad m] (f : α → m β) :
    (entries : List (String × α)) →
      m { out : List (String × β) // out.map Prod.fst = entries.map Prod.fst }
  | [] => pure ⟨[], rfl⟩
  | (key, value) :: rest => do
    let result ← f value
    let ⟨out, h⟩ ← mapEntriesM f rest
    return ⟨(key, result) :: out, by simp [h]⟩

def mapM {m : Type → Type} [Monad m] (f : α → m β) (map : OrderedMap α) : m (OrderedMap β) := do
  let ⟨entries, h⟩ ← mapEntriesM f map.entries
  return ⟨entries, h ▸ map.sorted⟩

@[simp] theorem find?_empty (key : String) : (∅ : OrderedMap α).find? key = none := rfl

theorem find?_update (m : OrderedMap α) (key other : String) (f : Option α → α) :
    (m.update key f).find? other =
      if other = key then some (f (m.find? key)) else m.find? other := by
  obtain ⟨entries, hsorted⟩ := m
  simp only [update, find?]
  induction entries with
  | nil =>
      by_cases h : other = key
      · simp [updateEntries, h]
      · have hne : (other == key) = false := by simpa using h
        simp [updateEntries, List.lookup_cons, h, hne]
  | cons entry rest ih =>
      obtain ⟨first, value⟩ := entry
      simp only [List.map_cons, List.pairwise_cons] at hsorted
      have habsent : key < first → List.lookup key rest = none := by
        intro hlt
        rw [List.lookup_eq_none_iff]
        intro pair hpair
        have := String.lt_trans hlt (hsorted.1 pair.1 (List.mem_map_of_mem hpair))
        simp only [bne_iff_ne, ne_eq]
        exact fun heq => String.lt_irrefl _ (heq ▸ this)
      rw [updateEntries]
      split
      next hlt =>
        have hne : key ≠ first := fun heq => String.lt_irrefl _ (heq ▸ hlt)
        have hbeq : (key == first) = false := by simpa using hne
        by_cases h : other = key
        · subst h
          simp [List.lookup_cons, hbeq, habsent hlt]
        · have hother : (other == key) = false := by simpa using h
          simp [List.lookup_cons, h, hother]
      next =>
        split
        next heq =>
          subst heq
          by_cases h : other = key
          · simp [h]
          · have hother : (other == key) = false := by simpa using h
            simp [List.lookup_cons, h, hother]
        next hne =>
          have hbeq : (key == first) = false := by simpa using hne
          by_cases hfirst : other = first
          · subst hfirst
            have : other ≠ key := fun heq => hne heq.symm
            simp [this]
          · have hother : (other == first) = false := by simpa using hfirst
            simp [List.lookup_cons, hbeq, hother, ih hsorted.2]

theorem find?_insert (m : OrderedMap α) (key other : String) (value : α) :
    (m.insert key value).find? other = if other = key then some value else m.find? other :=
  find?_update m key other _

end OrderedMap

end MockCluster
