import MockCluster.Json.Codec
import MockCluster.Proofs.Json.Fits

/-!
Codecs that keep what they store: what has been read fits, and what fits is read back from any tree
that shows how it is written.

A codec has this property at a depth, for a notion of fitting that is put together from those of its
parts.
-/

namespace MockCluster.Json

variable {α β : Type} {depth : Nat}

/-- The members may stand beside members with reserved keys, inside `depth` arrays and objects. -/
structure FreeMembers (depth : Nat) (reserved : List String) (members : Members) : Prop where
  nodup : (members.map Prod.fst).Nodup
  free : ∀ member ∈ members, member.1 ∉ reserved
  fits : ∀ member ∈ members, Fits depth member.2

theorem freeMembers_nil {reserved : List String} : FreeMembers depth reserved [] :=
  ⟨List.nodup_nil, nofun, nofun⟩

theorem liftFault_ok {result : Except Fault α} {value : α} (h : liftFault result = .ok value) :
    result = .ok value := by
  cases result with
  | error => cases h
  | ok => cases h; rfl

theorem forall_mem_of_mapM {f : α → Except Problem β} {P : β → Prop}
    (hf : ∀ item value, f item = .ok value → P value) {items : List α} {values : List β}
    (h : items.mapM f = .ok values) : ∀ value ∈ values, P value := by
  induction items generalizing values with
  | nil =>
      cases h
      simp
  | cons item rest ih =>
      rw [List.mapM_cons] at h
      obtain ⟨value, hvalue, h⟩ := exists_of_bind_ok h
      obtain ⟨others, hothers, h⟩ := exists_of_bind_ok h
      cases h
      exact List.forall_mem_cons.2 ⟨hf item value hvalue, ih hothers⟩

namespace Codec

structure Keeps (codec : Codec α) (depth : Nat) (P : α → Prop) : Prop where
  fits_of_read : ∀ {tree : Tree} {value : α}, codec.read depth tree = .ok value →
    Whole (codec.write value) → P value
  whole_of_fits : ∀ {value : α}, P value → Whole (codec.write value)
  read_of_shows : ∀ {tree : Tree} {value : α}, P value → tree.Shows (codec.write value) →
    codec.read depth tree = .ok value

variable {codec : Codec α} {P : α → Prop}

theorem Keeps.congr {Q : α → Prop} (h : codec.Keeps depth P) (hiff : ∀ value, Q value ↔ P value) :
    codec.Keeps depth Q := by
  have hPQ : Q = P := funext fun value => propext (hiff value)
  rw [hPQ]
  exact h

theorem Keeps.imap {forth : α → β} {back : β → α} (h : codec.Keeps depth P)
    (hforth : ∀ value, back (forth value) = value) (hback : ∀ value, forth (back value) = value) :
    (codec.imap forth back).Keeps depth fun value => P (back value) where
  fits_of_read := by
    intro tree value hread hwhole
    change (codec.read depth tree).map forth = .ok value at hread
    cases hresult : codec.read depth tree with
    | error => rw [hresult] at hread; cases hread
    | ok former =>
        rw [hresult] at hread
        cases hread
        rw [hforth]
        refine h.fits_of_read hresult ?_
        change Whole (codec.write (back (forth former))) at hwhole
        rwa [hforth] at hwhole
  whole_of_fits := h.whole_of_fits
  read_of_shows := by
    intro tree value hfits hshows
    change (codec.read depth tree).map forth = .ok value
    rw [h.read_of_shows hfits hshows]
    exact congrArg Except.ok (hback value)

theorem keeps_string : string.Keeps depth fun _ => True where
  fits_of_read _ _ := trivial
  whole_of_fits _ := trivial
  read_of_shows _ hshows := by
    cases hshows
    rfl

theorem keeps_natBelow {limit : Nat} {expected : String} (hlimit : limit ≤ twoTo 64) :
    (natBelow limit expected).Keeps depth (· < limit) where
  fits_of_read := by
    intro tree value hread _
    simp only [natBelow] at hread
    split at hread
    · split at hread
      next hbounds => cases hread; omega
      next => cases hread
    · cases hread
  whole_of_fits := by
    intro value hlt
    change -((twoTo 63 : Nat) : Int) ≤ (value : Int) ∧ (value : Int) < (twoTo 64 : Nat)
    omega
  read_of_shows := by
    intro tree value hlt hshows
    cases hshows
    simp only [natBelow]
    rw [if_pos (by omega)]
    rfl

theorem keeps_any : any.Keeps depth (Fits depth) where
  fits_of_read hread hwhole := Tree.fits_of_toJson _ (liftFault_ok hread) hwhole
  whole_of_fits hfits := hfits.whole
  read_of_shows hfits hshows := by
    change liftFault (Tree.toJson depth _) = _
    rw [Tree.toJson_of_shows _ hfits hshows]
    rfl

theorem Keeps.optional (h : codec.Keeps depth P) (hnull : ∀ value, codec.write value ≠ .null) :
    codec.optional.Keeps depth fun value? => ∀ value ∈ value?, P value where
  fits_of_read := by
    intro tree value? hread hwhole value hvalue
    cases hvalue
    simp only [Codec.optional] at hread
    split at hread
    · cases hread
    · cases hresult : codec.read depth tree with
      | error => rw [hresult] at hread; cases hread
      | ok former =>
          rw [hresult] at hread
          cases hread
          exact h.fits_of_read hresult hwhole
  whole_of_fits := by
    intro value? hfits
    cases value? with
    | none => trivial
    | some value => exact h.whole_of_fits (hfits value rfl)
  read_of_shows := by
    intro tree value? hfits hshows
    cases value? with
    | none =>
        cases hshows
        rfl
    | some value =>
        have hread := h.read_of_shows (hfits value rfl) hshows
        simp only [Codec.optional]
        split
        · change Tree.Shows _ (codec.write value) at hshows
          generalize hwrite : codec.write value = written at hshows
          cases hshows
          exact absurd hwrite (hnull value)
        · rw [hread]
          rfl

theorem read_items_of_shows (h : codec.Keeps depth P) {values : List α} {items : List Tree}
    (hfits : ∀ value ∈ values, P value) (hshows : Tree.ShowsItems items (values.map codec.write)) :
    items.mapM (codec.read depth) = .ok values := by
  induction values generalizing items with
  | nil =>
      cases hshows
      rfl
  | cons value rest ih =>
      cases hshows with
      | cons hitem hitems =>
          rw [List.mapM_cons, h.read_of_shows (hfits value List.mem_cons_self) hitem,
            ih (fun other hmem => hfits other (List.mem_cons_of_mem _ hmem)) hitems]
          rfl

theorem Keeps.list (h : codec.Keeps (depth + 1) P) (hdepth : depth < Tree.depthLimit) :
    codec.list.Keeps depth fun values => ∀ value ∈ values, P value where
  fits_of_read := by
    intro tree values hread hwhole
    simp only [Codec.list] at hread
    split at hread
    next start items ending =>
      obtain ⟨_, _, hread⟩ := exists_of_bind_ok hread
      obtain ⟨_, hvalues, hread⟩ := exists_of_bind_ok hread
      obtain ⟨_, _, hread⟩ := exists_of_bind_ok hread
      cases hread
      have hitems := forall_mem_of_mapM (P := fun value => Whole (codec.write value) → P value)
        (fun _ _ hitem => h.fits_of_read hitem) hvalues
      intro value hmem
      exact hitems value hmem (wholeItems_iff.1 hwhole _ (List.mem_map_of_mem hmem))
    next => cases hread
  whole_of_fits := by
    intro values hfits
    refine wholeItems_iff.2 ?_
    rw [List.forall_mem_map]
    exact fun value hmem => h.whole_of_fits (hfits value hmem)
  read_of_shows := by
    intro tree values hfits hshows
    cases hshows with
    | array hitems =>
        simp only [Codec.list, Tree.enter_ok hdepth, read_items_of_shows h hfits hitems]
        rfl

/-- Entries that are kept under their keys: setting adds nothing else, and setting them one after
another gives them back. -/
structure KeepsEntries (empty : β) (set : β → String → α → β) (toList : β → List (String × α))
    (Q : β → Prop) : Prop where
  start : Q empty ∧ toList empty = []
  step : ∀ {held : β} (key : String) (value : α), Q held → Q (set held key value)
  mem_set : ∀ {held : β} {key : String} {value : α} {entry : String × α},
    entry ∈ toList (set held key value) → entry = (key, value) ∨ entry ∈ toList held
  rebuild : ∀ {held : β}, Q held →
    (toList held).foldl (fun held entry => set held entry.1 entry.2) empty = held

section keyed

variable {empty : β} {set : β → String → α → β} {toList : β → List (String × α)} {Q : β → Prop}

def readEntry (codec : Codec α) (depth : Nat) (set : β → String → α → β) (held : β)
    (member : Key × Tree) : Except Problem β := do
  let name ← liftFault member.1.name
  let value ← codec.read depth member.2
  return set held name value

theorem fits_of_readEntries (h : codec.Keeps depth P)
    (hentries : KeepsEntries empty set toList Q) {members : List (Key × Tree)} {held result : β}
    (hread : members.foldlM (readEntry codec depth set) held = .ok result) (hheld : Q held)
    (hfits : ∀ entry ∈ toList held, Whole (codec.write entry.2) → P entry.2) :
    Q result ∧ ∀ entry ∈ toList result, Whole (codec.write entry.2) → P entry.2 := by
  induction members generalizing held with
  | nil =>
      cases hread
      exact ⟨hheld, hfits⟩
  | cons member rest ih =>
      rw [List.foldlM_cons] at hread
      obtain ⟨next, hnext, hread⟩ := exists_of_bind_ok hread
      obtain ⟨name, _, hnext⟩ := exists_of_bind_ok hnext
      obtain ⟨value, hvalue, hnext⟩ := exists_of_bind_ok hnext
      cases hnext
      refine ih hread (hentries.step name value hheld) ?_
      intro entry hmem
      rcases hentries.mem_set hmem with rfl | hmem
      · exact h.fits_of_read hvalue
      · exact hfits entry hmem

theorem readEntries_of_shows (h : codec.Keeps depth P) {members : List (Key × Tree)}
    {entries : List (String × α)} (held : β) (hfits : ∀ entry ∈ entries, P entry.2)
    (hshows : Tree.ShowsMembers members
      (entries.map fun entry => (entry.1, codec.write entry.2))) :
    members.foldlM (readEntry codec depth set) held =
      .ok (entries.foldl (fun held entry => set held entry.1 entry.2) held) := by
  induction entries generalizing held members with
  | nil =>
      cases hshows
      rfl
  | cons entry rest ih =>
      cases hshows with
      | cons hname hitem hmembers =>
          have hrest := ih (set held entry.1 entry.2)
            (fun other hmem => hfits other (List.mem_cons_of_mem _ hmem)) hmembers
          rw [List.foldlM_cons, readEntry, hname,
            h.read_of_shows (hfits entry List.mem_cons_self) hitem]
          exact hrest

theorem Keeps.keyed (h : codec.Keeps (depth + 1) P) (hdepth : depth < Tree.depthLimit)
    (hentries : KeepsEntries empty set toList Q) :
    (codec.keyed empty set toList).Keeps depth fun held =>
      Q held ∧ ∀ entry ∈ toList held, P entry.2 where
  fits_of_read := by
    intro tree held hread hwhole
    simp only [Codec.keyed] at hread
    split at hread
    next start members ending =>
      obtain ⟨_, _, hread⟩ := exists_of_bind_ok hread
      obtain ⟨_, hresult, hread⟩ := exists_of_bind_ok hread
      obtain ⟨_, _, hread⟩ := exists_of_bind_ok hread
      cases hread
      have hnone : ∀ entry ∈ toList empty, Whole (codec.write entry.2) → P entry.2 := by
        rw [hentries.start.2]
        simp
      obtain ⟨hheld, hfits⟩ := fits_of_readEntries h hentries hresult hentries.start.1 hnone
      refine ⟨hheld, fun entry hmem => hfits entry hmem ?_⟩
      exact wholeMembers_iff.1 hwhole _ (List.mem_map_of_mem hmem)
    next => cases hread
  whole_of_fits := by
    intro held hfits
    refine wholeMembers_iff.2 ?_
    rw [List.forall_mem_map]
    exact fun entry hmem => h.whole_of_fits (hfits.2 entry hmem)
  read_of_shows := by
    intro tree held hfits hshows
    cases hshows with
    | object hmembers =>
        have hread : List.foldlM (readEntry codec (depth + 1) set) empty _ = _ :=
          readEntries_of_shows h empty hfits.2 hmembers
        rw [hentries.rebuild hfits.1] at hread
        change (do
          liftFault (Tree.enter depth _)
          let values ← List.foldlM (readEntry codec (depth + 1) set) empty _
          let _ ← liftFault (Tree.Ending.check (.closed _))
          return values) = .ok held
        rw [Tree.enter_ok hdepth, hread]
        rfl

end keyed

theorem keeps_members (hdepth : depth < Tree.depthLimit) :
    members.Keeps depth (FreeMembers (depth + 1) []) := by
  have hentries : KeepsEntries ([] : Members) (fun held key value => Members.set key value held)
      id fun held => (held.map Prod.fst).Nodup :=
    { start := ⟨List.nodup_nil, rfl⟩
      step := fun key value h => KeyedList.nodup_put key value h
      mem_set := KeyedList.mem_put
      rebuild := KeyedList.foldl_put [] }
  refine (keeps_any.keyed hdepth hentries).congr fun held => ?_
  exact ⟨fun h => ⟨h.nodup, h.fits⟩, fun h => ⟨h.1, fun _ _ => List.not_mem_nil, h.2⟩⟩

end Codec

end MockCluster.Json
