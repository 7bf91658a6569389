import Mathlib.Data.List.Perm.Basic
import MockCluster.Proofs.Document.Substitution

/-!
Moving the buckets of a grouping: every reference stays, under the new key of its bucket.

Buckets move one after another, so a bucket could be moved twice.  A replacement of keys that leaves
its own results alone moves each bucket once.
-/

namespace MockCluster

namespace Grouping

/-- The references of a grouping, each with the key it is filed under. -/
def filings (grouping : Grouping) : List (String × TaskRef) :=
  grouping.entries.flatMap fun entry => entry.2.map (Prod.mk entry.1)

theorem mem_filings_iff {grouping : Grouping} {key : String} {ref : TaskRef} :
    (key, ref) ∈ grouping.filings ↔ ∃ bucket, grouping.find? key = some bucket ∧ ref ∈ bucket := by
  simp only [filings, List.mem_flatMap, List.mem_map, Prod.mk.injEq]
  constructor
  · intro hgiven
    obtain ⟨⟨_, bucket⟩, hentry, ref, hmem, rfl, rfl⟩ := hgiven
    exact ⟨bucket, OrderedMap.mem_entries_iff.1 hentry, hmem⟩
  · intro hgiven
    obtain ⟨bucket, hfind, hmem⟩ := hgiven
    exact ⟨(key, bucket), OrderedMap.mem_entries_iff.2 hfind, ref, hmem, rfl, rfl⟩

theorem filings_map (f : TaskRef → TaskRef) (grouping : Grouping) :
    Grouping.filings (grouping.map (List.map f)) = grouping.filings.map (Prod.map id f) := by
  simp [filings, OrderedMap.map, List.flatMap_map, List.map_flatMap, Function.comp_def]

theorem filings_append_perm (grouping : Grouping) (key : String) (refs : List TaskRef) :
    (grouping.append key refs).filings.Perm (grouping.filings ++ refs.map (Prod.mk key)) := by
  apply OrderedMap.flatMap_update_perm
  · simp
  · intro bucket
    simp

theorem filings_perm_erase {grouping : Grouping} {key : String} {bucket : List TaskRef}
    (hfind : grouping.find? key = some bucket) :
    grouping.filings.Perm (Grouping.filings (grouping.erase key) ++ bucket.map (Prod.mk key)) := by
  obtain ⟨entries, hsorted⟩ := grouping
  simp only [filings, OrderedMap.erase, OrderedMap.find?] at hfind ⊢
  induction entries with
  | nil => cases hfind
  | cons entry rest ih =>
      obtain ⟨first, held⟩ := entry
      simp only [List.map_cons, List.pairwise_cons] at hsorted
      by_cases heq : first = key
      · subst heq
        have hkept : rest.filter (fun entry => entry.1 ≠ first) = rest := by
          apply List.filter_eq_self.2
          intro other hmem
          have hlt := hsorted.1 other.1 (List.mem_map_of_mem hmem)
          exact decide_eq_true fun heq => String.lt_irrefl _ (heq ▸ hlt)
        have hbucket : held = bucket := by simpa using hfind
        subst hbucket
        rw [List.filter_cons_of_neg (by simp), hkept, List.flatMap_cons]
        exact List.perm_append_comm
      · have hne : (key == first) = false := by simpa using Ne.symm heq
        rw [List.lookup_cons, hne] at hfind
        simp only at hfind
        rw [List.filter_cons_of_pos (by simpa using heq), List.flatMap_cons, List.flatMap_cons,
          List.append_assoc]
        exact List.Perm.append_left _ (ih hsorted.2 hfind)

/-- What the move of one bucket makes of a key. -/
def movedKey (old new key : String) : String := if key = old then new else key

theorem map_movedKey_of_absent {filings : List (String × TaskRef)} {old new : String}
    (h : ∀ filing ∈ filings, filing.1 ≠ old) :
    filings.map (Prod.map (movedKey old new) id) = filings := by
  conv_rhs => rw [← List.map_id filings]
  apply List.map_congr_left
  intro filing hmem
  simp [Prod.map, movedKey, h filing hmem]

theorem key_ne_of_mem_filings_erase {grouping : Grouping} {key : String}
    {filing : String × TaskRef} (hmem : filing ∈ Grouping.filings (grouping.erase key)) :
    filing.1 ≠ key := by
  obtain ⟨bucket, hfind, _⟩ := mem_filings_iff.1 (Prod.eta filing ▸ hmem)
  rw [OrderedMap.find?_erase] at hfind
  rintro rfl
  rw [if_pos rfl] at hfind
  cases hfind

theorem filings_move_perm (grouping : Grouping) (old new : String) :
    (grouping.move old new).filings.Perm
      (grouping.filings.map (Prod.map (movedKey old new) id)) := by
  unfold move
  split
  next heq =>
    have hkey : movedKey old new = id := by
      funext key
      unfold movedKey
      split
      next h => rw [heq, h, id]
      next => rfl
    simp [hkey]
  next =>
    cases hfind : grouping.find? old with
    | none =>
        rw [map_movedKey_of_absent]
        intro filing hmem heq
        obtain ⟨bucket, hbucket, _⟩ := mem_filings_iff.1 (Prod.eta filing ▸ hmem)
        rw [heq, hfind] at hbucket
        cases hbucket
    | some bucket =>
        have herased := (filings_perm_erase hfind).map (Prod.map (movedKey old new) id)
        rw [List.map_append, map_movedKey_of_absent fun _ => key_ne_of_mem_filings_erase,
          List.map_map] at herased
        have hbucket : (Prod.map (movedKey old new) id ∘ Prod.mk old : TaskRef → _) =
            Prod.mk new := by
          funext ref
          simp [Prod.map, movedKey]
        rw [hbucket] at herased
        exact (filings_append_perm _ new bucket).trans herased.symm

/-- The buckets of some keys behind one another, if any of the keys has a bucket. -/
def gathered (grouping : Grouping) : (keys : List String) → Option (List TaskRef)
  | [] => none
  | key :: rest => Option.merge (· ++ ·) (grouping.find? key) (gathered grouping rest)

theorem gathered_congr {grouping other : Grouping} {keys : List String}
    (h : ∀ key ∈ keys, grouping.find? key = other.find? key) :
    grouping.gathered keys = other.gathered keys := by
  induction keys with
  | nil => rfl
  | cons key rest ih =>
      obtain ⟨hkey, hrest⟩ := List.forall_mem_cons.1 h
      rw [gathered, gathered, hkey, ih hrest]

theorem gathered_ne_none_iff {grouping : Grouping} {keys : List String} :
    grouping.gathered keys ≠ none ↔ ∃ key ∈ keys, key ∈ grouping.keys := by
  induction keys with
  | nil => simp [gathered]
  | cons key rest ih =>
      rw [List.exists_mem_cons_iff, ← ih, OrderedMap.mem_keys_iff, ← Option.ne_none_iff_exists',
        gathered]
      cases grouping.find? key <;> cases grouping.gathered rest <;> simp

theorem merge_append_assoc (first second third : Option (List TaskRef)) :
    Option.merge (· ++ ·) (Option.merge (· ++ ·) first second) third =
      Option.merge (· ++ ·) first (Option.merge (· ++ ·) second third) := by
  cases first <;> cases second <;> cases third <;> simp

theorem find?_move_self (grouping : Grouping) {old new : String} (hne : new ≠ old) :
    (grouping.move old new).find? old = none := by
  rw [move, if_neg hne]
  cases hfind : grouping.find? old with
  | none => exact hfind
  | some bucket => simp only [find?_append, OrderedMap.find?_erase, if_neg hne.symm, if_pos]

theorem find?_move_new (grouping : Grouping) {old new : String} (hne : new ≠ old) :
    (grouping.move old new).find? new =
      Option.merge (· ++ ·) (grouping.find? new) (grouping.find? old) := by
  rw [move, if_neg hne]
  cases grouping.find? old with
  | none => simp
  | some bucket =>
      simp only [find?_append, OrderedMap.find?_erase, if_neg hne, if_pos]
      cases grouping.find? new <;> simp

theorem find?_move_other (grouping : Grouping) {old new key : String} (hold : key ≠ old)
    (hnew : key ≠ new) : (grouping.move old new).find? key = grouping.find? key := by
  rw [move]
  split
  · rfl
  · cases grouping.find? old with
    | none => rfl
    | some bucket => simp only [find?_append, OrderedMap.find?_erase, if_neg hold, if_neg hnew]

end Grouping

namespace Substitution

open Grouping (movedKey)

variable (s : Substitution)

/-- A key after the buckets of some keys have been moved in turn. -/
def movedKeys (moves : List String) (key : String) : String :=
  moves.foldl (fun key move => movedKey move (s.nodeId move) key) key

theorem filings_foldl_move_perm (moves : List String) (grouping : Grouping) :
    (moves.foldl (fun moved key => moved.move key (s.nodeId key)) grouping).filings.Perm
      (grouping.filings.map (Prod.map (s.movedKeys moves) id)) := by
  induction moves generalizing grouping with
  | nil =>
      have hid : s.movedKeys [] = id := rfl
      simp [hid]
  | cons first rest ih =>
      rw [List.foldl_cons]
      refine (ih _).trans ?_
      refine ((Grouping.filings_move_perm grouping first _).map _).trans ?_
      rw [List.map_map]
      exact List.Perm.refl _

variable {s}

theorem movedKeys_eq (hstable : ∀ id, s.nodeId (s.nodeId id) = s.nodeId id)
    (moves : List String) (key : String) :
    s.movedKeys moves key = if key ∈ moves then s.nodeId key else key := by
  induction moves generalizing key with
  | nil => rfl
  | cons first rest ih =>
      change s.movedKeys rest (movedKey first (s.nodeId first) key) = _
      rw [ih, movedKey]
      by_cases heq : key = first
      · subst heq
        simp [hstable]
      · simp [heq]

/-- The keys among some that others take for their new one. -/
def arrivals (s : Substitution) (keys : List String) (key : String) : List String :=
  keys.filter fun former => former ≠ key ∧ s.nodeId former = key

theorem mem_arrivals {keys : List String} {key former : String} :
    former ∈ s.arrivals keys key ↔ former ∈ keys ∧ former ≠ key ∧ s.nodeId former = key := by
  rw [arrivals, List.mem_filter, decide_eq_true_iff]

theorem find?_foldl_move (hstable : ∀ id, s.nodeId (s.nodeId id) = s.nodeId id)
    {moves : List String} (hnodup : moves.Nodup) (grouping : Grouping) (key : String) :
    (moves.foldl (fun moved key => moved.move key (s.nodeId key)) grouping).find? key =
      if s.nodeId key = key then grouping.gathered (key :: s.arrivals moves key)
      else if key ∈ moves then none
      else grouping.find? key := by
  induction moves generalizing grouping with
  | nil => simp [arrivals, Grouping.gathered]
  | cons first rest ih =>
      obtain ⟨hfirst, hrest⟩ := List.nodup_cons.1 hnodup
      rw [List.foldl_cons, ih hrest]
      split
      next hkey =>
        -- A later move finds its bucket where it was: a target of moves is not moved itself.
        have harrivals : ∀ former ∈ s.arrivals rest key,
            (grouping.move first (s.nodeId first)).find? former = grouping.find? former := by
          intro former hmem
          obtain ⟨hformer, hne, htarget⟩ := mem_arrivals.1 hmem
          apply grouping.find?_move_other
          · rintro rfl
            exact hfirst hformer
          · rintro rfl
            exact hne ((hstable first).symm.trans htarget)
        rw [Grouping.gathered, Grouping.gathered_congr harrivals]
        by_cases harrives : first ≠ key ∧ s.nodeId first = key
        · have hcons : s.arrivals (first :: rest) key = first :: s.arrivals rest key :=
            List.filter_cons_of_pos (decide_eq_true harrives)
          obtain ⟨hne, rfl⟩ := harrives
          rw [hcons, grouping.find?_move_new hne.symm, Grouping.gathered, Grouping.gathered,
            Grouping.merge_append_assoc]
        · have hcons : s.arrivals (first :: rest) key = s.arrivals rest key :=
            List.filter_cons_of_neg (by simpa using harrives)
          rw [hcons, Grouping.gathered]
          congr 1
          by_cases heq : first = key
          · subst heq
            rw [Grouping.move, if_pos hkey]
          · exact grouping.find?_move_other (Ne.symm heq) fun htarget =>
              harrives ⟨heq, htarget.symm⟩
      next hkey =>
        by_cases heq : key = first
        · subst heq
          rw [if_neg hfirst, if_pos List.mem_cons_self, grouping.find?_move_self hkey]
        · have hother : key ≠ s.nodeId first := by
            rintro rfl
            exact hkey (hstable first)
          rw [grouping.find?_move_other heq hother]
          simp [heq]

theorem find?_rekey (hstable : ∀ id, s.nodeId (s.nodeId id) = s.nodeId id) (grouping : Grouping)
    (key : String) :
    (s.rekey grouping).find? key =
      if s.nodeId key = key then grouping.gathered (key :: s.arrivals grouping.keys key)
      else none := by
  rw [rekey, find?_foldl_move hstable grouping.nodup_keys]
  split
  · rfl
  · split
    · rfl
    next habsent => exact OrderedMap.find?_eq_none_iff.2 habsent

variable (hstable : ∀ id, s.nodeId (s.nodeId id) = s.nodeId id)

include hstable

theorem filings_serviceGrouping_perm (grouping : Grouping) :
    (s.serviceGrouping grouping).filings.Perm
      (grouping.filings.map (Prod.map s.nodeId s.ref)) := by
  rw [serviceGrouping, nodeGrouping, Grouping.filings_map]
  refine ((s.filings_foldl_move_perm grouping.keys grouping).map _).trans ?_
  rw [List.map_map]
  refine List.Perm.of_eq (List.map_congr_left ?_)
  intro filing hmem
  obtain ⟨bucket, hfind, _⟩ := Grouping.mem_filings_iff.1 (Prod.eta filing ▸ hmem)
  have hkey : filing.1 ∈ grouping.keys := OrderedMap.mem_keys_iff.2 ⟨bucket, hfind⟩
  simp [Prod.map, movedKeys_eq hstable, hkey]

theorem mem_keys_serviceGrouping {grouping : Grouping} {key : String} :
    key ∈ (s.serviceGrouping grouping).keys ↔ ∃ former ∈ grouping.keys, s.nodeId former = key := by
  rw [serviceGrouping, nodeGrouping, OrderedMap.keys_map, OrderedMap.mem_keys_iff,
    find?_rekey hstable]
  constructor
  · rintro ⟨bucket, hbucket⟩
    split at hbucket
    next hkey =>
      obtain ⟨former, hmem, hformer⟩ :=
        Grouping.gathered_ne_none_iff.1 (Option.ne_none_iff_exists'.2 ⟨bucket, hbucket⟩)
      refine ⟨former, hformer, ?_⟩
      rcases List.mem_cons.1 hmem with rfl | harrived
      · exact hkey
      · exact (mem_arrivals.1 harrived).2.2
    next => cases hbucket
  · rintro ⟨former, hformer, rfl⟩
    rw [if_pos (hstable former)]
    refine Option.ne_none_iff_exists'.1 (Grouping.gathered_ne_none_iff.2 ⟨former, ?_, hformer⟩)
    by_cases heq : former = s.nodeId former
    · exact List.mem_cons.2 (.inl heq)
    · exact List.mem_cons_of_mem _ (mem_arrivals.2 ⟨hformer, heq, rfl⟩)

end Substitution

end MockCluster
