import Mathlib.Data.List.Forall2
import Mathlib.Data.List.Induction
import MockCluster.Proofs.Json.Record
import MockCluster.Proofs.OrderedMap

/-!
The members of a record that are no fields come back as they were: in the order in which their keys
first came, behind the fields, each with the value that came last.

A shape tells which objects of a text are read as records, and with which keys.  Codecs are
followed along it from the text to what they write, and each object is found again at the end of the
same way.
-/

namespace MockCluster.Json

variable {α β τ : Type} {depth : Nat}

/-- Which parts of a text are records that keep their other members, and where their fields are. -/
inductive Shape where
  | plain
  | record (fields : List (String × Shape))
  | list (item : Shape)
  | keyed (value : Shape)

inductive Hop where
  | key (name : String)
  | index (place : Nat)

/-- The value at the end of a way. -/
def at? : List Hop → Json → Option Json
  | [], value => some value
  | .key name :: way, .object members => (Members.get? members name).bind (at? way)
  | .index place :: way, .array items => items[place]?.bind (at? way)
  | _ :: _, _ => none

/-- At the end of the way stands a record, with the keys of its fields and with all its members.  An
object of entries may give a key again; `counts` tells, from the entries behind it, whether an entry
is looked at. -/
inductive Tree.HasRecord (counts : String → List (Key × Tree) → Prop) :
    Shape → Tree → List Hop → List String → List (Key × Tree) → Prop where
  | here {fields : List (String × Shape)} {start : Nat} {members : List (Key × Tree)}
      {ending : Ending} :
      HasRecord counts (.record fields) (.object start members ending) []
        (fields.map Prod.fst) members
  | field {fields : List (String × Shape)} {start : Nat} {members found : List (Key × Tree)}
      {ending : Ending} {name : String} {shape : Shape} {key : Key} {item : Tree} {way : List Hop}
      {keys : List String} (hfield : (name, shape) ∈ fields) (hmem : (key, item) ∈ members)
      (hname : key.name = .ok name) (hrecord : HasRecord counts shape item way keys found) :
      HasRecord counts (.record fields) (.object start members ending) (.key name :: way) keys found
  | item {shape : Shape} {start place : Nat} {items : List Tree} {ending : Ending} {item : Tree}
      {way : List Hop} {keys : List String} {found : List (Key × Tree)}
      (hitem : items[place]? = some item) (hrecord : HasRecord counts shape item way keys found) :
      HasRecord counts (.list shape) (.array start items ending) (.index place :: way) keys found
  | entry {shape : Shape} {start : Nat} (before : List (Key × Tree))
      {after found : List (Key × Tree)} {ending : Ending} {name : String} {key : Key} {item : Tree} {way : List Hop}
      {keys : List String} (hname : key.name = .ok name) (hcounts : counts name after)
      (hrecord : HasRecord counts shape item way keys found) :
      HasRecord counts (.keyed shape) (.object start (before ++ (key, item) :: after) ending)
        (.key name :: way) keys found

/-- No later member has the key. -/
def NotRepeated (name : String) (later : List (Key × Tree)) : Prop :=
  ∀ member ∈ later, member.1.name ≠ .ok name

/-- The members with other keys than these. -/
def unmodelled (keys : List String) (members : List (Key × Tree)) : List (String × Tree) :=
  members.filterMap fun (key, item) =>
    match key.name with
    | .ok name => if name ∈ keys then none else some (name, item)
    | .error _ => none

/-- What is written of a record: members with modelled keys, and then all others in the order of the
text, where a key that is repeated keeps its first place and its last value. -/
def CarriedOver (keys : List String) (members : List (Key × Tree)) (written : Members) : Prop :=
  ∃ modelled kept : Members, written = modelled ++ kept ∧ (∀ name ∈ modelled.keys, name ∈ keys) ∧
    kept.keys = ((unmodelled keys members).map Prod.fst).eraseDups ∧
    ∀ name item, (unmodelled keys members).reverse.lookup name = some item →
      ∃ depth value, item.toJson depth = .ok value ∧ kept.get? name = some value

section Unmodelled

variable {keys : List String} {name : String} {members : List (Key × Tree)}

theorem unmodelled_cons_of_name {key : Key} (item : Tree) (hname : key.name = .ok name) :
    unmodelled keys ((key, item) :: members) =
      if name ∈ keys then unmodelled keys members else (name, item) :: unmodelled keys members := by
  by_cases hmem : name ∈ keys <;> simp [unmodelled, hname, hmem]

theorem unmodelled_cons (name : String) (keys : List String) (members : List (Key × Tree)) :
    unmodelled (name :: keys) members = unmodelled keys (withoutKey name members) := by
  induction members with
  | nil => rfl
  | cons member rest ih =>
      obtain ⟨key, item⟩ := member
      by_cases hname : key.name = .ok name
      · rw [withoutKey_cons_of_name hname, ← ih, unmodelled, List.filterMap_cons_none]
        · rfl
        · simp [hname]
      · rw [withoutKey_cons_of_other hname]
        unfold unmodelled at ih ⊢
        rw [List.filterMap_cons, List.filterMap_cons, ih]
        cases hkey : key.name with
        | error => simp [hkey]
        | ok other =>
            have hne : other ≠ name := fun heq => hname (heq ▸ hkey)
            simp [hkey, hne]

theorem CarriedOver.cons {written : Members}
    (h : CarriedOver keys (withoutKey name members) written) (value? : Option Json) :
    CarriedOver (name :: keys) members
      ((value?.map fun value => (name, value)).toList ++ written) := by
  obtain ⟨modelled, kept, rfl, hmodelled, hkeys, hvalues⟩ := h
  rw [← unmodelled_cons] at hkeys hvalues
  refine ⟨(value?.map fun value => (name, value)).toList ++ modelled, kept,
    (List.append_assoc _ _ _).symm, ?_, hkeys, hvalues⟩
  intro other hother
  cases value? with
  | none => exact List.mem_cons_of_mem _ (hmodelled other hother)
  | some value =>
      rcases List.mem_cons.1 hother with rfl | hother
      · exact List.mem_cons_self
      · exact List.mem_cons_of_mem _ (hmodelled other hother)

end Unmodelled

/-- Every tree that shows the value has the record, and these are the names of its other members. -/
def Exhibits (counts : String → List (Key × Tree) → Prop) (shape : Shape) (value : Json)
    (way : List Hop) (keys names : List String) : Prop :=
  ∀ tree : Tree, tree.Shows value → ∃ members, tree.HasRecord counts shape way keys members ∧
    (unmodelled keys members).map Prod.fst = names

namespace Exhibits

variable {counts : String → List (Key × Tree) → Prop} {shape : Shape} {value : Json}
  {way : List Hop} {keys names : List String} {name : String}

theorem names_of_shows {shown : List (Key × Tree)} {members : Members}
    (h : Tree.ShowsMembers shown members) :
    (unmodelled keys shown).map Prod.fst = members.keys.filter (· ∉ keys) := by
  induction members generalizing shown with
  | nil =>
      cases h
      rfl
  | cons member members ih =>
      cases h with
      | @cons _ _ _ name _ _ hname _ hmembers =>
      rw [unmodelled_cons_of_name _ hname, Members.keys, List.map_cons, List.filter_cons,
        ← Members.keys, ← ih hmembers]
      by_cases hmem : name ∈ keys <;> simp [hmem]

theorem exists_of_append {shown : List (Key × Tree)} {before after : Members}
    (h : Tree.ShowsMembers shown (before ++ (name, value) :: after)) :
    ∃ early key item late, shown = early ++ (key, item) :: late ∧ key.name = .ok name ∧
      item.Shows value ∧ Tree.ShowsMembers late after := by
  induction before generalizing shown with
  | nil =>
      cases h with
      | cons hname hitem hmembers => exact ⟨[], _, _, _, rfl, hname, hitem, hmembers⟩
  | cons _ before ih =>
      cases h with
      | cons _ _ hmembers =>
      obtain ⟨early, key, item, late, rfl, hfound⟩ := ih hmembers
      exact ⟨_ :: early, key, item, late, rfl, hfound⟩

theorem exists_of_getElem? {shown : List Tree} {values : List Json} (h : Tree.ShowsItems shown values)
    {place : Nat} (hvalue : values[place]? = some value) :
    ∃ item, shown[place]? = some item ∧ item.Shows value := by
  induction values generalizing shown place with
  | nil => cases hvalue
  | cons _ values ih =>
      cases h with
      | cons hitem hitems =>
      cases place with
      | zero =>
          cases hvalue
          exact ⟨_, rfl, hitem⟩
      | succ place => exact ih hitems hvalue

theorem notRepeated_of_shows {late : List (Key × Tree)} {after : Members}
    (h : Tree.ShowsMembers late after) (hname : name ∉ after.keys) : NotRepeated name late := by
  induction after generalizing late with
  | nil =>
      cases h
      exact nofun
  | cons member after ih =>
      cases h with
      | cons hother _ hmembers =>
      obtain ⟨hne, hrest⟩ := not_or.1 (mt List.mem_cons.2 hname)
      refine List.forall_mem_cons.2 ⟨fun heq => hne ?_, ih hmembers hrest⟩
      exact Except.ok.inj (heq.symm.trans hother)

theorem here {fields : List (String × Shape)} {members : Members} :
    Exhibits counts (.record fields) (.object members) [] (fields.map Prod.fst)
      (members.keys.filter (· ∉ fields.map Prod.fst)) := by
  intro tree hshows
  cases hshows with
  | object hmembers => exact ⟨_, .here, names_of_shows hmembers⟩

theorem field {fields : List (String × Shape)} {members : Members}
    (hfield : (name, shape) ∈ fields) (hmem : (name, value) ∈ members)
    (h : Exhibits counts shape value way keys names) :
    Exhibits counts (.record fields) (.object members) (.key name :: way) keys names := by
  intro tree hshows
  obtain ⟨before, after, rfl⟩ := List.append_of_mem hmem
  cases hshows with
  | object hmembers =>
      obtain ⟨early, key, item, late, rfl, hname, hitem, -⟩ := exists_of_append hmembers
      obtain ⟨found, hrecord, hnames⟩ := h item hitem
      have hmem := List.mem_append_right early (List.mem_cons_self (a := (key, item)) (l := late))
      exact ⟨found, .field hfield hmem hname hrecord, hnames⟩

theorem item {values : List Json} {place : Nat} (hvalue : values[place]? = some value)
    (h : Exhibits counts shape value way keys names) :
    Exhibits counts (.list shape) (.array values) (.index place :: way) keys names := by
  intro tree hshows
  cases hshows with
  | array hitems =>
      obtain ⟨item, hplace, hitem⟩ := exists_of_getElem? hitems hvalue
      obtain ⟨found, hrecord, hnames⟩ := h item hitem
      exact ⟨found, .item hplace hrecord, hnames⟩

theorem entry (before : Members) {after : Members}
    (hcounts : ∀ late, Tree.ShowsMembers late after → counts name late)
    (h : Exhibits counts shape value way keys names) :
    Exhibits counts (.keyed shape) (.object (before ++ (name, value) :: after)) (.key name :: way)
      keys names := by
  intro tree hshows
  cases hshows with
  | object hmembers =>
      obtain ⟨early, key, item, late, rfl, hname, hitem, hlate⟩ := exists_of_append hmembers
      obtain ⟨found, hrecord, hnames⟩ := h item hitem
      exact ⟨found, .entry early hname (hcounts late hlate) hrecord, hnames⟩

end Exhibits

section Kept

/-- The values that the other members of a record are read as. -/
def ReadAs (depth : Nat) (entry : String × Tree) (pair : String × Json) : Prop :=
  entry.1 = pair.1 ∧ entry.2.toJson depth = .ok pair.2

theorem exists_pairs_of_toMembers {members : List (Key × Tree)} {read values : Members}
    (h : Tree.toMembers depth read members = .ok values) :
    ∃ pairs, List.Forall₂ (ReadAs depth) (unmodelled [] members) pairs ∧
      values = pairs.foldl (fun held pair => held.set pair.1 pair.2) read := by
  induction members generalizing read with
  | nil =>
      cases h
      exact ⟨[], .nil, rfl⟩
  | cons member rest ih =>
      obtain ⟨key, item⟩ := member
      rw [Tree.toMembers] at h
      obtain ⟨name, hname, h⟩ := exists_of_bind_ok h
      obtain ⟨value, hvalue, h⟩ := exists_of_bind_ok h
      obtain ⟨pairs, hpairs, rfl⟩ := ih h
      rw [unmodelled_cons_of_name item hname, if_neg List.not_mem_nil]
      exact ⟨(name, value) :: pairs, .cons ⟨rfl, hvalue⟩ hpairs, rfl⟩

theorem lookup_of_readAs {entries : List (String × Tree)} {pairs : List (String × Json)}
    (h : List.Forall₂ (ReadAs depth) entries pairs) {name : String} {item : Tree}
    (hitem : entries.lookup name = some item) :
    ∃ value, item.toJson depth = .ok value ∧ pairs.lookup name = some value := by
  induction h with
  | nil => cases hitem
  | @cons entry pair entries pairs hread _ ih =>
      obtain ⟨key, first⟩ := entry
      obtain ⟨other, value⟩ := pair
      obtain ⟨rfl, hvalue⟩ := hread
      rw [List.lookup_cons] at hitem ⊢
      cases heq : name == key with
      | true =>
          rw [heq] at hitem
          cases hitem
          exact ⟨value, hvalue, rfl⟩
      | false =>
          rw [heq] at hitem
          exact ih hitem

theorem keys_of_readAs {entries : List (String × Tree)} {pairs : List (String × Json)}
    (h : List.Forall₂ (ReadAs depth) entries pairs) :
    Members.keys pairs = entries.map Prod.fst := by
  induction h with
  | nil => rfl
  | cons hread _ ih => exact congrArg₂ List.cons hread.1.symm ih

theorem carriedOver_of_toMembers {members : List (Key × Tree)} {kept : Members}
    (h : Tree.toMembers depth [] members = .ok kept) : CarriedOver [] members kept := by
  obtain ⟨pairs, hpairs, hkept⟩ := exists_pairs_of_toMembers h
  change kept = Members.ofList pairs at hkept
  refine ⟨[], kept, rfl, nofun, ?_, ?_⟩
  · rw [hkept, Members.keys_ofList, keys_of_readAs hpairs]
  · intro name item hitem
    obtain ⟨value, hvalue, hlookup⟩ := lookup_of_readAs (List.rel_reverse hpairs) hitem
    exact ⟨depth, value, hvalue, by rw [hkept, Members.get?_ofList, hlookup]⟩

end Kept

/-- Every record that a tree of the shape holds is carried over to what is written. -/
structure Codec.Carries (codec : Codec α) (shape : Shape) : Prop where
  found : ∀ {depth : Nat} {tree : Tree} {value : α}, codec.read depth tree = .ok value →
    ∀ {way : List Hop} {keys : List String} {members : List (Key × Tree)},
      tree.HasRecord NotRepeated shape way keys members →
        ∃ written, at? way (codec.write value) = some (.object written) ∧
          CarriedOver keys members written

structure Field.Carries (field : Field α) (shape : Shape) : Prop where
  codec : field.codec.Carries shape
  unwritten : ∀ {depth : Nat} {tree : Tree} {value : α}, field.codec.read depth tree = .ok value →
    field.isWritten value = false →
      ∀ {way : List Hop} {keys : List String} {members : List (Key × Tree)},
        ¬ tree.HasRecord NotRepeated shape way keys members

/-- The shapes of the fields of a record that keeps its other members. -/
inductive Fields.Carries : {τ : Type} → Fields τ → List (String × Shape) → Prop where
  | rest : Carries .rest []
  | field {α β : Type} {first : Field α} {others : Fields β} {shape : Shape}
      {shapes : List (String × Shape)} (hfirst : first.Carries shape)
      (hothers : Carries others shapes) :
      Carries (.field first others) ((first.key, shape) :: shapes)

namespace Codec

variable {codec : Codec α} {shape : Shape}

theorem carries_plain : codec.Carries .plain := ⟨nofun⟩

theorem Carries.imap {forth : α → β} {back : β → α} (h : codec.Carries shape)
    (hforth : ∀ value, back (forth value) = value) : (codec.imap forth back).Carries shape where
  found := by
    intro depth tree value hread way keys members hrecord
    change (codec.read depth tree).map forth = .ok value at hread
    cases hresult : codec.read depth tree with
    | error => rw [hresult] at hread; cases hread
    | ok former =>
        rw [hresult] at hread
        cases hread
        obtain ⟨written, hwritten, hcarried⟩ := h.found hresult hrecord
        refine ⟨written, ?_, hcarried⟩
        change at? way (codec.write (back (forth former))) = _
        rw [hforth, hwritten]

theorem Carries.optional (h : codec.Carries shape) : codec.optional.Carries shape where
  found := by
    intro depth tree value? hread way keys members hrecord
    simp only [Codec.optional] at hread
    split at hread
    · cases hrecord
    · cases hresult : codec.read depth tree with
      | error => rw [hresult] at hread; cases hread
      | ok former =>
          rw [hresult] at hread
          cases hread
          exact h.found hresult hrecord

theorem getElem?_of_mapM {f : Tree → Except Problem α} {items : List Tree} {values : List α}
    (h : items.mapM f = .ok values) {place : Nat} {item : Tree}
    (hitem : items[place]? = some item) :
    ∃ value, f item = .ok value ∧ values[place]? = some value := by
  induction items generalizing values place with
  | nil => cases hitem
  | cons first rest ih =>
      rw [List.mapM_cons] at h
      obtain ⟨value, hvalue, h⟩ := exists_of_bind_ok h
      obtain ⟨others, hothers, h⟩ := exists_of_bind_ok h
      cases h
      cases place with
      | zero =>
          cases hitem
          exact ⟨value, hvalue, rfl⟩
      | succ place => exact ih hothers hitem

theorem Carries.list (h : codec.Carries shape) : codec.list.Carries (.list shape) where
  found := by
    intro depth tree values hread way keys members hrecord
    cases hrecord with
    | item hitem hrecord =>
        obtain ⟨_, _, hread⟩ := exists_of_bind_ok hread
        obtain ⟨read, hvalues, hread⟩ := exists_of_bind_ok hread
        obtain ⟨_, _, hread⟩ := exists_of_bind_ok hread
        cases hread
        obtain ⟨value, hvalue, hplace⟩ := getElem?_of_mapM hvalues hitem
        obtain ⟨written, hwritten, hcarried⟩ := h.found hvalue hrecord
        refine ⟨written, ?_, hcarried⟩
        change ((values.map codec.write)[_]?.bind _) = _
        rw [List.getElem?_map, hplace]
        exact hwritten

section Entries

variable {members : List (Key × Tree)} {held result : OrderedMap α}

theorem find?_of_notRepeated {name : String} (hlater : NotRepeated name members)
    (h : members.foldlM (readEntry codec depth OrderedMap.insert) held = .ok result) :
    result.find? name = held.find? name := by
  induction members generalizing held with
  | nil =>
      cases h
      rfl
  | cons member rest ih =>
      rw [List.foldlM_cons] at h
      obtain ⟨next, hnext, h⟩ := exists_of_bind_ok h
      obtain ⟨other, hother, hnext⟩ := exists_of_bind_ok hnext
      obtain ⟨value, _, hnext⟩ := exists_of_bind_ok hnext
      cases hnext
      obtain ⟨hfirst, hrest⟩ := List.forall_mem_cons.1 hlater
      have hne : name ≠ other := fun heq => hfirst (heq ▸ liftFault_ok hother)
      rw [ih hrest h, OrderedMap.find?_insert, if_neg hne]

/-- The last entry with a key is the one that is found. -/
theorem find?_of_entry {before after : List (Key × Tree)} {key : Key} {item : Tree} {name : String}
    (hname : key.name = .ok name) (hlater : NotRepeated name after)
    (h : (before ++ (key, item) :: after).foldlM (readEntry codec depth OrderedMap.insert) held =
      .ok result) :
    ∃ value, codec.read depth item = .ok value ∧ result.find? name = some value := by
  rw [List.foldlM_append] at h
  obtain ⟨early, _, h⟩ := exists_of_bind_ok h
  rw [List.foldlM_cons] at h
  obtain ⟨next, hnext, h⟩ := exists_of_bind_ok h
  obtain ⟨read, hread, hnext⟩ := exists_of_bind_ok hnext
  obtain ⟨value, hvalue, hnext⟩ := exists_of_bind_ok hnext
  cases hnext
  obtain rfl : read = name := Except.ok.inj ((liftFault_ok hread).symm.trans hname)
  refine ⟨value, hvalue, ?_⟩
  rw [find?_of_notRepeated hlater h, OrderedMap.find?_insert, if_pos rfl]

theorem lookup_map_write (entries : List (String × α)) (name : String) :
    (entries.map fun entry => (entry.1, codec.write entry.2)).lookup name =
      (entries.lookup name).map codec.write := by
  induction entries with
  | nil => rfl
  | cons entry rest ih =>
      rw [List.map_cons, List.lookup_cons, List.lookup_cons, ih]
      cases name == entry.1 <;> rfl

theorem Carries.keyed (h : codec.Carries shape) :
    (codec.keyed (∅ : OrderedMap α) OrderedMap.insert OrderedMap.entries).Carries
      (.keyed shape) where
  found := by
    intro depth tree result hread way keys members hrecord
    cases hrecord with
    | entry before hname hlater hrecord =>
        obtain ⟨_, _, hread⟩ := exists_of_bind_ok hread
        obtain ⟨held, hheld, hread⟩ := exists_of_bind_ok hread
        obtain ⟨_, _, hread⟩ := exists_of_bind_ok hread
        cases hread
        obtain ⟨value, hvalue, hfind⟩ := find?_of_entry hname hlater hheld
        obtain ⟨written, hwritten, hcarried⟩ := h.found hvalue hrecord
        refine ⟨written, ?_, hcarried⟩
        change ((List.lookup _ (result.entries.map fun entry =>
          (entry.1, codec.write entry.2))).bind _) = _
        rw [lookup_map_write]
        change ((result.find? _).map codec.write).bind _ = _
        rw [hfind]
        exact hwritten

end Entries

end Codec

namespace Field

variable {codec : Codec α} {shape : Shape} {key : String}

theorem carries_plain {field : Field α} : field.Carries .plain where
  codec := Codec.carries_plain
  unwritten := nofun

theorem carries_withDefault (h : codec.Carries shape) (value : α) :
    (withDefault key codec value).Carries shape where
  codec := h
  unwritten := nofun

theorem carries_list (h : codec.Carries shape) : (list key codec).Carries (.list shape) :=
  carries_withDefault h.list []

theorem carries_optional (h : codec.Carries shape) : (optional key codec).Carries shape where
  codec := h.optional
  unwritten := by
    intro depth tree value? hread hwritten way keys members hrecord
    simp only [optional, Codec.optional] at hread
    split at hread
    · cases hrecord
    · cases hresult : codec.read depth tree with
      | error => rw [hresult] at hread; cases hread
      | ok former =>
          rw [hresult] at hread
          cases hread
          cases hwritten

theorem carries_listUnlessEmpty (h : codec.Carries shape) :
    (listUnlessEmpty key codec).Carries (.list shape) where
  codec := h.list
  unwritten := by
    intro depth tree values hread hwritten way keys members hrecord
    cases hrecord with
    | item hitem _ =>
        obtain ⟨_, _, hread⟩ := exists_of_bind_ok hread
        obtain ⟨read, hvalues, hread⟩ := exists_of_bind_ok hread
        obtain ⟨_, _, hread⟩ := exists_of_bind_ok hread
        cases hread
        obtain ⟨value, _, hplace⟩ := Codec.getElem?_of_mapM hvalues hitem
        cases values with
        | nil => cases hplace
        | cons => cases hwritten

end Field

namespace Fields

variable {fields : Fields τ} {shapes : List (String × Shape)} {members : List (Key × Tree)}
  {slots : fields.Slots} {index : Nat} {value : τ}

theorem Carries.keys_eq (h : fields.Carries shapes) : fields.keys = shapes.map Prod.fst := by
  induction h with
  | rest => rfl
  | @field _ _ first _ _ _ _ _ ih => exact congrArg (List.cons first.key) ih

/-- What has been read is written with the fields first, none of them replaced. -/
theorem Carries.write_eq (h : fields.Carries shapes) (hkeys : (shapes.map Prod.fst).Nodup)
    (hfed : members.foldlM (feedMember depth fields) fields.noSlots = .ok slots)
    (hcollect : fields.collect index slots = .ok value) :
    fields.write value = fields.entries value := by
  have hapart : fields.Apart [] value :=
    apart_of_collect (fun _ _ => List.forall_mem_nil _) hfed hcollect
  exact hapart.write_eq (h.keys_eq ▸ hkeys)

theorem Carries.carriedOver (h : fields.Carries shapes)
    (hfed : members.foldlM (feedMember depth fields) fields.noSlots = .ok slots)
    (hcollect : fields.collect index slots = .ok value) :
    CarriedOver (shapes.map Prod.fst) members (fields.entries value) := by
  induction h generalizing members with
  | rest =>
      have hread := toMembers_of_feed hfed
      cases hcollect
      exact carriedOver_of_toMembers hread
  | @field _ _ first others _ _ _ _ ih =>
      obtain ⟨value, values⟩ := value
      obtain ⟨-, hleft⟩ := foldlM_feedFirst_ok hfed
      obtain ⟨-, hvalues⟩ := collect_ok hcollect
      have hothers := ih hleft hvalues
      rw [entries]
      split
      · exact hothers.cons (some (first.codec.write value))
      · exact hothers.cons none

/-- A record inside a field is found again under the key of the field. -/
theorem Carries.at?_entries (h : fields.Carries shapes) (hkeys : (shapes.map Prod.fst).Nodup)
    (hfed : members.foldlM (feedMember depth fields) fields.noSlots = .ok slots)
    (hcollect : fields.collect index slots = .ok value) {name : String} {shape : Shape} {key : Key}
    {item : Tree} (hfield : (name, shape) ∈ shapes) (hmem : (key, item) ∈ members)
    (hname : key.name = .ok name) {way : List Hop} {keys : List String}
    {found : List (Key × Tree)} (hrecord : item.HasRecord NotRepeated shape way keys found) :
    ∃ written, at? (.key name :: way) (.object (fields.entries value)) = some (.object written) ∧
      CarriedOver keys found written := by
  -- A field sees the members that the fields before it leave; other keys stay on their way.
  induction h generalizing members with
  | rest => cases hfield
  | @field _ _ first others _ _ hfirst _ ih =>
      obtain ⟨value, values⟩ := value
      obtain ⟨hvalue, hvalues⟩ := collect_ok hcollect
      obtain ⟨hnew, hnodup⟩ := List.nodup_cons.1 hkeys
      rw [entries]
      rcases List.mem_cons.1 hfield with heq | hfield
      · cases heq
        obtain ⟨former, hread, hfilled⟩ := foldlM_feedFirst_own hmem hname hfed
        obtain rfl : former = value := by
          rcases hvalue with hvalue | ⟨hnone, -⟩
          · exact Option.some.inj (hfilled.symm.trans hvalue)
          · rw [hfilled] at hnone
            cases hnone
        split
        next =>
          obtain ⟨written, hwritten, hcarried⟩ := hfirst.codec.found hread hrecord
          refine ⟨written, ?_, hcarried⟩
          rw [at?, Members.get?, List.lookup_cons_self]
          exact hwritten
        next hunwritten =>
          exact absurd hrecord (hfirst.unwritten hread (by simpa using hunwritten))
      · have hlisted := List.mem_map_of_mem (f := Prod.fst) hfield
        have hne : name ≠ first.key := fun heq => hnew (heq ▸ hlisted)
        have hother : (key, item) ∈ withoutKey first.key members :=
          mem_withoutKey.2 ⟨hmem, fun heq => hne (Except.ok.inj (hname.symm.trans heq))⟩
        obtain ⟨written, hwritten, hcarried⟩ :=
          ih hnodup (foldlM_feedFirst_ok hfed).2 hvalues hfield hother
        refine ⟨written, ?_, hcarried⟩
        split
        · have hbeq : (name == first.key) = false := by simpa using hne
          rw [at?, Members.get?, List.lookup_cons, hbeq]
          exact hwritten
        · exact hwritten

end Fields

theorem Codec.carries_openRecord {fields : Fields τ} {shapes : List (String × Shape)}
    {name : String} (h : fields.Carries shapes) (hkeys : (shapes.map Prod.fst).Nodup) :
    (openRecord name fields).Carries (.record shapes) where
  found := by
    intro depth tree value hread way keys members hrecord
    cases hrecord with
    | here =>
        obtain ⟨_, _, hread⟩ := exists_of_bind_ok hread
        obtain ⟨slots, hfed, hread⟩ := exists_of_bind_ok hread
        obtain ⟨index, _, hcollect⟩ := exists_of_bind_ok hread
        have hcarried := h.carriedOver hfed hcollect
        rw [← h.write_eq hkeys hfed hcollect] at hcarried
        exact ⟨fields.write value, rfl, hcarried⟩
    | field hfield hmem hname hrecord =>
        obtain ⟨_, _, hread⟩ := exists_of_bind_ok hread
        obtain ⟨slots, hfed, hread⟩ := exists_of_bind_ok hread
        obtain ⟨index, _, hcollect⟩ := exists_of_bind_ok hread
        have hfound := h.at?_entries hkeys hfed hcollect hfield hmem hname hrecord
        rw [← h.write_eq hkeys hfed hcollect] at hfound
        exact hfound

end MockCluster.Json
