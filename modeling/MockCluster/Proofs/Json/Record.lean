import MockCluster.Json.Record
import MockCluster.Proofs.Json.Codec
import MockCluster.Proofs.Json.Members

/-!
Records keep what they store when their fields do, each field has a key of its own, and the members
that are no fields stand apart from all of these keys.
-/

namespace MockCluster.Json

variable {α β τ : Type} {depth : Nat}

def Key.hasName (key : Key) (name : String) : Bool :=
  match key.name with
  | .ok other => other = name
  | .error _ => false

theorem Key.hasName_iff {key : Key} {name : String} :
    key.hasName name = true ↔ key.name = .ok name := by
  unfold hasName
  cases key.name <;> simp

/-- The members that have other keys. -/
def withoutKey (name : String) (members : List (Key × Tree)) : List (Key × Tree) :=
  members.filter fun member => !member.1.hasName name

section WithoutKey

variable {name : String} {member : Key × Tree} {members : List (Key × Tree)}

theorem mem_withoutKey :
    member ∈ withoutKey name members ↔ member ∈ members ∧ member.1.name ≠ .ok name := by
  rw [withoutKey, List.mem_filter, Bool.not_eq_true', ← Bool.not_eq_true, Key.hasName_iff]

theorem withoutKey_cons_of_name (h : member.1.name = .ok name) :
    withoutKey name (member :: members) = withoutKey name members :=
  List.filter_cons_of_neg (by simp [Key.hasName_iff.2 h])

theorem withoutKey_cons_of_other (h : member.1.name ≠ .ok name) :
    withoutKey name (member :: members) = member :: withoutKey name members :=
  List.filter_cons_of_pos (by simp [← Bool.not_eq_true, Key.hasName_iff, h])

end WithoutKey

/-- Leaving a value out is as good as writing it. -/
structure Field.Keeps (field : Field α) (depth : Nat) (P : α → Prop) : Prop where
  codec : field.codec.Keeps depth P
  absent : ∀ value ∈ field.absent, P value
  unwritten : ∀ value, field.isWritten value = false → field.absent = some value

namespace Field

variable {codec : Codec α} {P : α → Prop} {key : String}

@[simp] theorem key_withDefault {value : α} : (withDefault key codec value).key = key := rfl

@[simp] theorem key_optional : (optional key codec).key = key := rfl

@[simp] theorem key_list : (list key codec).key = key := rfl

@[simp] theorem key_listUnlessEmpty : (listUnlessEmpty key codec).key = key := rfl

theorem keeps_withDefault (h : codec.Keeps depth P) {value : α} (hvalue : P value) :
    (withDefault key codec value).Keeps depth P where
  codec := h
  absent := by
    intro other hother
    cases hother
    exact hvalue
  unwritten := nofun

theorem keeps_string : (string key).Keeps depth fun _ => True :=
  keeps_withDefault Codec.keeps_string trivial

theorem keeps_optional (h : codec.Keeps depth P) (hnull : ∀ value, codec.write value ≠ .null) :
    (optional key codec).Keeps depth fun value? => ∀ value ∈ value?, P value where
  codec := h.optional hnull
  absent := by
    intro value? hvalue value hmem
    cases hvalue
    cases hmem
  unwritten := by
    intro value? hwritten
    cases value? with
    | none => rfl
    | some value => cases hwritten

theorem keeps_optionalString : (optionalString key).Keeps depth fun _ => True := by
  have h : (optional key Codec.string).Keeps depth _ := keeps_optional Codec.keeps_string nofun
  simp only [implies_true] at h
  exact h

theorem keeps_list (h : codec.Keeps (depth + 1) P) (hdepth : depth < Tree.depthLimit) :
    (list key codec).Keeps depth fun values => ∀ value ∈ values, P value :=
  keeps_withDefault (h.list hdepth) (by simp)

theorem keeps_listUnlessEmpty (h : codec.Keeps (depth + 1) P) (hdepth : depth < Tree.depthLimit) :
    (listUnlessEmpty key codec).Keeps depth fun values => ∀ value ∈ values, P value where
  codec := h.list hdepth
  absent := by
    intro values hvalues
    cases hvalues
    simp
  unwritten := by
    intro values hwritten
    cases values with
    | nil => rfl
    | cons => cases hwritten

end Field

namespace Fields

def keys : {τ : Type} → Fields τ → List String
  | _, .rest => []
  | _, .done => []
  | _, .field first others => first.key :: others.keys

/-- The members that are no fields. -/
def kept : {τ : Type} → Fields τ → τ → Members
  | _, .rest, kept => kept
  | _, .done, _ => []
  | _, .field _ others, value => others.kept value.2

theorem exists_entries_eq (fields : Fields τ) (value : τ) :
    ∃ modelled : Members, fields.entries value = modelled ++ fields.kept value ∧
      modelled.keys.Sublist fields.keys := by
  induction fields with
  | rest => exact ⟨[], rfl, List.nil_sublist _⟩
  | done => exact ⟨[], rfl, List.nil_sublist _⟩
  | field first others ih =>
      obtain ⟨value, values⟩ := value
      obtain ⟨modelled, hentries, hkeys⟩ := ih values
      rw [entries, hentries]
      split
      · exact ⟨(first.key, first.codec.write value) :: modelled, rfl, hkeys.cons_cons first.key⟩
      · exact ⟨modelled, rfl, hkeys.cons first.key⟩

theorem mem_entries_own {first : Field α} {others : Fields β} {value : α × β}
    (hwritten : first.isWritten value.1 = true) :
    (first.key, first.codec.write value.1) ∈ (Fields.field first others).entries value := by
  rw [entries, if_pos hwritten]
  exact List.mem_cons_self

theorem mem_entries_later {first : Field α} {others : Fields β} {value : α × β}
    {member : String × Json} (h : member ∈ others.entries value.2) :
    member ∈ (Fields.field first others).entries value := by
  rw [entries]
  split
  · exact List.mem_cons_of_mem _ h
  · exact h

/-- A field is written unless a member that is no field takes its place. -/
theorem mem_write {fields : Fields τ} {value : τ} {name : String} {written : Json}
    (hkeys : fields.keys.Nodup) (hmem : (name, written) ∈ fields.entries value)
    (hkept : name ∉ (fields.kept value).keys) :
    (name, written) ∈ fields.write value := by
  obtain ⟨modelled, hentries, hsublist⟩ := fields.exists_entries_eq value
  rw [hentries] at hmem
  have hmodelled : (name, written) ∈ modelled :=
    (List.mem_append.1 hmem).resolve_right fun h => hkept (List.mem_map_of_mem h)
  have hnone : (fields.kept value).reverse.lookup name = none :=
    Members.lookup_reverse_eq_none_iff.2 hkept
  have hreverse : (modelled.reverse.map Prod.fst).Nodup := by
    rw [List.map_reverse, List.nodup_reverse]
    exact hsublist.nodup hkeys
  rw [write, Members.mem_ofList_iff, hentries, List.reverse_append, List.lookup_append, hnone,
    Option.none_or]
  exact (KeyedList.mem_iff_lookup hreverse).1 (List.mem_reverse.2 hmodelled)

/-- The members that are no fields have keys of their own. -/
structure Apart (fields : Fields τ) (reserved : List String) (value : τ) : Prop where
  nodup : (fields.kept value).keys.Nodup
  free : ∀ name ∈ (fields.kept value).keys, name ∉ reserved ++ fields.keys

namespace Apart

variable {fields : Fields τ} {reserved : List String} {value : τ}

theorem field_iff {first : Field α} {others : Fields β} {value : α × β} :
    (Fields.field first others).Apart reserved value ↔
      others.Apart (reserved ++ [first.key]) value.2 := by
  have hreserved : reserved ++ (Fields.field first others).keys =
      reserved ++ [first.key] ++ others.keys := List.append_cons _ _ _
  constructor
  · rintro ⟨hnodup, hfree⟩
    exact ⟨hnodup, hreserved ▸ hfree⟩
  · rintro ⟨hnodup, hfree⟩
    exact ⟨hnodup, hreserved ▸ hfree⟩

/-- With keys of their own no members replace each other. -/
theorem write_eq (h : fields.Apart [] value) (hkeys : fields.keys.Nodup) :
    fields.write value = fields.entries value := by
  apply Members.ofList_eq_self
  obtain ⟨modelled, hentries, hsublist⟩ := fields.exists_entries_eq value
  rw [hentries, Members.keys, List.map_append]
  refine List.nodup_append.2 ⟨hsublist.nodup hkeys, h.nodup, ?_⟩
  rintro name hmodelled _ hkept rfl
  exact h.free name hkept (hsublist.subset hmodelled)

theorem key_free (h : fields.Apart reserved value) (hkeys : (reserved ++ fields.keys).Nodup) :
    ∀ member ∈ fields.entries value, member.1 ∉ reserved := by
  obtain ⟨modelled, hentries, hsublist⟩ := fields.exists_entries_eq value
  rw [hentries, List.forall_mem_append]
  refine ⟨fun member hmem hreserved => ?_, fun member hmem hreserved => ?_⟩
  · have hfield := hsublist.subset (List.mem_map_of_mem hmem)
    exact (List.nodup_append.1 hkeys).2.2 _ hreserved _ hfield rfl
  · exact h.free member.1 (List.mem_map_of_mem hmem) (List.mem_append_left _ hreserved)

end Apart

/-- Each field keeps what it stores, and members that are no fields stand apart from the reserved
keys and those of the fields. -/
inductive Keeps (depth : Nat) : {τ : Type} → Fields τ → List String → (τ → Prop) → Prop where
  | rest {reserved : List String} : Keeps depth .rest reserved (FreeMembers depth reserved)
  | done {reserved : List String} : Keeps depth .done reserved fun _ => True
  | field {α β : Type} {first : Field α} {others : Fields β} {reserved : List String}
      {P : α → Prop} {Q : β → Prop} (hfirst : first.Keeps depth P)
      (hothers : Keeps depth others (reserved ++ [first.key]) Q) :
      Keeps depth (.field first others) reserved fun value => P value.1 ∧ Q value.2

theorem Keeps.string {key : String} {others : Fields β} {reserved : List String} {Q : β → Prop}
    (h : Keeps depth others (reserved ++ [key]) Q) :
    Keeps depth (.field (.string key) others) reserved fun value => Q value.2 := by
  simpa using Keeps.field Field.keeps_string h

theorem Keeps.optionalString {key : String} {others : Fields β} {reserved : List String}
    {Q : β → Prop} (h : Keeps depth others (reserved ++ [key]) Q) :
    Keeps depth (.field (.optionalString key) others) reserved fun value => Q value.2 := by
  simpa using Keeps.field Field.keeps_optionalString h

variable {fields : Fields τ} {reserved : List String} {P : τ → Prop}

theorem Keeps.apart (h : Keeps depth fields reserved P) {value : τ} (hfits : P value) :
    fields.Apart reserved value := by
  induction h with
  | rest =>
      refine ⟨hfits.nodup, fun name hmem => ?_⟩
      obtain ⟨member, hmember, rfl⟩ := List.mem_map.1 hmem
      rw [keys, List.append_nil]
      exact hfits.free member hmember
  | done => exact ⟨List.nodup_nil, nofun⟩
  | field _ _ ih => exact Apart.field_iff.2 (ih hfits.2)

theorem Keeps.whole_of_fits (h : Keeps depth fields reserved P) {value : τ} (hfits : P value) :
    WholeMembers (fields.entries value) := by
  induction h with
  | rest => exact wholeMembers_iff.2 fun member hmem => (hfits.fits member hmem).whole
  | done => trivial
  | field hfirst _ ih =>
      obtain ⟨first, others⟩ := value
      rw [entries]
      split
      · exact ⟨hfirst.codec.whole_of_fits hfits.1, ih hfits.2⟩
      · exact ih hfits.2

theorem Keeps.wholeMembers_write (h : Keeps depth fields reserved P) {value : τ}
    (hfits : P value) : WholeMembers (fields.write value) := by
  have hentries := wholeMembers_iff.1 (h.whole_of_fits hfits)
  exact wholeMembers_iff.2 fun member hmem => hentries member (Members.mem_of_mem_ofList hmem)

/-- One member of the text goes into its slot. -/
def feedMember (depth : Nat) (fields : Fields τ) (slots : fields.Slots) (member : Key × Tree) :
    Except Problem fields.Slots := do
  let name ← liftFault member.1.name
  fields.feed depth name member.1.resume member.2 slots

/-- What is left over is read as untyped data. -/
def keepMember (depth : Nat) (kept : Members) (member : Key × Tree) : Except Problem Members := do
  let name ← liftFault member.1.name
  let value ← liftFault (member.2.toJson depth)
  return Members.set name value kept

theorem foldlM_keepMember (members : List (Key × Tree)) (kept : Members) :
    members.foldlM (keepMember depth) kept = liftFault (Tree.toMembers depth kept members) := by
  induction members generalizing kept with
  | nil => rfl
  | cons member rest ih =>
      obtain ⟨key, item⟩ := member
      rw [List.foldlM_cons, Tree.toMembers, keepMember]
      cases key.name with
      | error => rfl
      | ok name =>
          cases item.toJson depth with
          | error => rfl
          | ok value => exact ih _

theorem toMembers_of_feed {members : List (Key × Tree)} {kept : Members}
    (h : members.foldlM (feedMember depth .rest) rest.noSlots = .ok kept) :
    Tree.toMembers depth [] members = .ok kept :=
  liftFault_ok ((foldlM_keepMember members []).symm.trans h)

variable {first : Field α} {others : Fields β}

/-- One member goes into the slot of the first field, or to the other fields. -/
def feedFirst (depth : Nat) (first : Field α) (others : Fields β)
    (slots : Option α × others.Slots) (member : Key × Tree) :
    Except Problem (Option α × others.Slots) :=
  feedMember depth (.field first others) slots member

theorem feedFirst_eq (slots : Option α × others.Slots) (member : Key × Tree) :
    feedFirst depth first others slots member = liftFault member.1.name >>= fun name =>
      if name = first.key then
        if slots.1.isSome then .error (.duplicateField name member.1.resume)
        else first.codec.read depth member.2 >>= fun value => .ok (some value, slots.2)
      else others.feed depth name member.1.resume member.2 slots.2 >>= fun left =>
        .ok (slots.1, left) := rfl

theorem feedFirst_ok {member : Key × Tree} {slots result : Option α × others.Slots}
    (h : feedFirst depth first others slots member = .ok result) :
    (member.1.name = .ok first.key ∧ slots.1 = none ∧
      ∃ value, first.codec.read depth member.2 = .ok value ∧ result = (some value, slots.2)) ∨
      member.1.name ≠ .ok first.key ∧
        ∃ left, feedMember depth others slots.2 member = .ok left ∧ result = (slots.1, left) := by
  rw [feedFirst_eq] at h
  obtain ⟨name, hname, hfed⟩ := exists_of_bind_ok h
  split at hfed
  next howned =>
    split at hfed
    · cases hfed
    next hfree =>
      obtain ⟨value, hvalue, hfed⟩ := exists_of_bind_ok hfed
      cases hfed
      exact .inl ⟨by rw [liftFault_ok hname, howned], by simpa using hfree, value, hvalue, rfl⟩
  next hother =>
    obtain ⟨left, hleft, hfed⟩ := exists_of_bind_ok hfed
    cases hfed
    refine .inr ⟨?_, left, ?_, rfl⟩
    · rw [liftFault_ok hname]
      exact fun heq => hother (Except.ok.inj heq)
    · rw [feedMember, hname]
      exact hleft

/-- The slot of the first field is filled from a member, or left as it was; the other fields get
the members with other keys. -/
theorem foldlM_feedFirst_ok {members : List (Key × Tree)} {slots result : Option α × others.Slots}
    (h : members.foldlM (feedFirst depth first others) slots = .ok result) :
    (result.1 = slots.1 ∨
      ∃ item value, first.codec.read depth item = .ok value ∧ result.1 = some value) ∧
      (withoutKey first.key members).foldlM (feedMember depth others) slots.2 =
        .ok result.2 := by
  induction members generalizing slots with
  | nil =>
      cases h
      exact ⟨.inl rfl, rfl⟩
  | cons member rest ih =>
      rw [List.foldlM_cons] at h
      obtain ⟨next, hnext, h⟩ := exists_of_bind_ok h
      obtain ⟨hslot, hleft⟩ := ih h
      rcases feedFirst_ok hnext with
        ⟨howned, -, value, hvalue, rfl⟩ | ⟨hother, following, hfollowing, rfl⟩
      · rw [withoutKey_cons_of_name howned]
        refine ⟨.inr ?_, hleft⟩
        rcases hslot with hslot | hslot
        · exact ⟨member.2, value, hvalue, hslot⟩
        · exact hslot
      · rw [withoutKey_cons_of_other hother, List.foldlM_cons, hfollowing]
        exact ⟨hslot, hleft⟩

theorem foldlM_feedFirst_filled {members : List (Key × Tree)} {value : α}
    {slots result : Option α × others.Slots} (hslot : slots.1 = some value)
    (h : members.foldlM (feedFirst depth first others) slots = .ok result) :
    result.1 = some value := by
  induction members generalizing slots with
  | nil =>
      cases h
      exact hslot
  | cons member rest ih =>
      rw [List.foldlM_cons] at h
      obtain ⟨next, hnext, h⟩ := exists_of_bind_ok h
      rcases feedFirst_ok hnext with ⟨-, hfree, -⟩ | ⟨-, left, -, rfl⟩
      · rw [hslot] at hfree
        cases hfree
      · have hkept : ((slots.1, left) : Option α × others.Slots).1 = some value := hslot
        exact ih hkept h

/-- The member with the key of the first field fills its slot. -/
theorem foldlM_feedFirst_own {members : List (Key × Tree)} {key : Key} {item : Tree}
    {slots result : Option α × others.Slots} (hmem : (key, item) ∈ members)
    (hname : key.name = .ok first.key)
    (h : members.foldlM (feedFirst depth first others) slots = .ok result) :
    ∃ value, first.codec.read depth item = .ok value ∧ result.1 = some value := by
  induction members generalizing slots with
  | nil => cases hmem
  | cons member rest ih =>
      rw [List.foldlM_cons] at h
      obtain ⟨next, hnext, h⟩ := exists_of_bind_ok h
      rcases List.mem_cons.1 hmem with rfl | hmem
      · rcases feedFirst_ok hnext with ⟨-, -, value, hvalue, rfl⟩ | ⟨hother, -⟩
        · exact ⟨value, hvalue, foldlM_feedFirst_filled rfl h⟩
        · exact absurd hname hother
      · exact ih hmem h

theorem collect_field (index : Nat) (slot : Option α) (slots : others.Slots) :
    (Fields.field first others).collect index (slot, slots) =
      (match slot, first.absent with
        | some value, _ => .ok value
        | none, some value => .ok value
        | none, none => .error (.missingField first.key index)) >>= fun value =>
          others.collect index slots >>= fun values => .ok (value, values) := by
  obtain ⟨_, _, absent, _⟩ := first
  cases slot <;> cases absent <;> rfl

theorem collect_ok {index : Nat} {slots : Option α × others.Slots} {value : α × β}
    (h : (Fields.field first others).collect index slots = .ok value) :
    (slots.1 = some value.1 ∨ slots.1 = none ∧ first.absent = some value.1) ∧
      others.collect index slots.2 = .ok value.2 := by
  obtain ⟨slot, slots⟩ := slots
  rw [collect_field] at h
  obtain ⟨chosen, hchosen, h⟩ := exists_of_bind_ok h
  obtain ⟨values, hvalues, h⟩ := exists_of_bind_ok h
  cases h
  refine ⟨?_, hvalues⟩
  split at hchosen
  · cases hchosen
    exact .inl rfl
  next habsent =>
    cases hchosen
    exact .inr ⟨rfl, habsent⟩
  · cases hchosen

theorem collect_of_slots {index : Nat} {slots : Option α × others.Slots} {value : α × β}
    (hvalue : slots.1 = some value.1 ∨ slots.1 = none ∧ first.absent = some value.1)
    (hvalues : others.collect index slots.2 = .ok value.2) :
    (Fields.field first others).collect index slots = .ok value := by
  obtain ⟨slot, slots⟩ := slots
  rw [collect_field, hvalues]
  rcases hvalue with rfl | ⟨rfl, habsent⟩
  · rfl
  · rw [habsent]
    rfl

/-- Whatever is read into a record, the members that are no fields stand apart. -/
theorem apart_of_collect {fields : Fields τ} {members : List (Key × Tree)} {slots : fields.Slots}
    {index : Nat} {value : τ}
    (hkeys : ∀ member ∈ members, ∀ key ∈ reserved, member.1.name ≠ .ok key)
    (hfed : members.foldlM (feedMember depth fields) fields.noSlots = .ok slots)
    (hcollect : fields.collect index slots = .ok value) : fields.Apart reserved value := by
  induction fields generalizing members reserved with
  | rest =>
      have hread := toMembers_of_feed hfed
      cases hcollect
      obtain ⟨hnodup, -⟩ := Tree.fits_of_toMembers members hread List.nodup_nil (by simp)
      refine ⟨hnodup, fun name hmem => ?_⟩
      obtain ⟨member, hmember, rfl⟩ := List.mem_map.1 hmem
      rw [keys, List.append_nil]
      intro hreserved
      rcases Tree.key_of_toMembers hread member hmember with hnone | ⟨source, hsource, hname⟩
      · cases hnone
      · exact hkeys source hsource member.1 hreserved hname
  | done => exact ⟨List.nodup_nil, nofun⟩
  | field first others ih =>
      obtain ⟨-, hleft⟩ := foldlM_feedFirst_ok hfed
      obtain ⟨-, hvalues⟩ := collect_ok hcollect
      refine Apart.field_iff.2 (ih ?_ hleft hvalues)
      intro member hmem
      obtain ⟨hmem, hother⟩ := mem_withoutKey.1 hmem
      rw [List.forall_mem_append, List.forall_mem_singleton]
      exact ⟨hkeys member hmem, hother⟩

theorem Keeps.fits_of_collect (h : Keeps depth fields reserved P) {members : List (Key × Tree)}
    {slots : fields.Slots} {index : Nat} {value : τ} (hapart : fields.Apart reserved value)
    (hfed : members.foldlM (feedMember depth fields) fields.noSlots = .ok slots)
    (hcollect : fields.collect index slots = .ok value)
    (hwhole : WholeMembers (fields.entries value)) : P value := by
  induction h generalizing members with
  | rest =>
      have hread := toMembers_of_feed hfed
      cases hcollect
      obtain ⟨hnodup, hfits⟩ := Tree.fits_of_toMembers members hread List.nodup_nil (by simp)
      refine ⟨hnodup, fun member hmem hreserved => ?_,
        fun member hmem => hfits member hmem (wholeMembers_iff.1 hwhole _ hmem)⟩
      exact hapart.free member.1 (List.mem_map_of_mem hmem) (List.mem_append_left _ hreserved)
  | done => trivial
  | field hfirst _ ih =>
      obtain ⟨hslot, hleft⟩ := foldlM_feedFirst_ok hfed
      obtain ⟨hvalue, hvalues⟩ := collect_ok hcollect
      obtain ⟨value, values⟩ := value
      have hothers := Apart.field_iff.1 hapart
      rw [entries] at hwhole
      split at hwhole
      next hwritten =>
        refine ⟨?_, ih hothers hleft hvalues hwhole.2⟩
        rcases hvalue with hfilled | ⟨-, habsent⟩
        · rcases hslot with hnone | ⟨item, former, hread, hsome⟩
          · rw [hnone] at hfilled
            cases hfilled
          · rw [hsome] at hfilled
            cases hfilled
            exact hfirst.codec.fits_of_read hread hwhole.1
        · exact hfirst.absent value habsent
      next hunwritten =>
        refine ⟨?_, ih hothers hleft hvalues hwhole⟩
        exact hfirst.absent value (hfirst.unwritten value (by simpa using hunwritten))

theorem readItems_nil_ok {expected : String} {ending : Ending} {count : Nat} {left : List Tree}
    {value : α × β}
    (h : (Fields.field first others).readItems depth expected ending count [] = .ok (value, left)) :
    first.absent = some value.1 ∧
      others.readItems depth expected ending count [] = .ok (value.2, left) := by
  obtain ⟨_, _, absent, _⟩ := first
  obtain ⟨index, _, h⟩ := exists_of_bind_ok h
  cases absent with
  | none =>
      obtain ⟨_, hmissing, _⟩ := exists_of_bind_ok h
      cases hmissing
  | some former =>
      obtain ⟨_, hformer, h⟩ := exists_of_bind_ok h
      obtain ⟨_, hothers, h⟩ := exists_of_bind_ok h
      cases hformer
      cases h
      exact ⟨rfl, hothers⟩

/-- An array has no members for the rest of a record. -/
theorem apart_of_readItems {fields : Fields τ} {expected : String} {ending : Ending} {count : Nat}
    {items left : List Tree} {value : τ}
    (h : fields.readItems depth expected ending count items = .ok (value, left)) :
    fields.Apart reserved value := by
  induction fields generalizing reserved count items left with
  | rest =>
      cases h
      exact ⟨List.nodup_nil, nofun⟩
  | done => exact ⟨List.nodup_nil, nofun⟩
  | field first others ih =>
      apply Apart.field_iff.2
      cases items with
      | nil => exact ih (readItems_nil_ok h).2
      | cons item rest =>
          obtain ⟨_, _, h⟩ := exists_of_bind_ok h
          obtain ⟨_, hothers, h⟩ := exists_of_bind_ok h
          cases h
          exact ih hothers

theorem Keeps.fits_of_readItems (h : Keeps depth fields reserved P) {expected : String}
    {ending : Ending} {count : Nat} {items left : List Tree} {value : τ}
    (hread : fields.readItems depth expected ending count items = .ok (value, left))
    (hwhole : WholeMembers (fields.entries value)) : P value := by
  induction h generalizing count items left with
  | rest =>
      cases hread
      exact freeMembers_nil
  | done => trivial
  | field hfirst _ ih =>
      obtain ⟨value, values⟩ := value
      cases items with
      | nil =>
          obtain ⟨hvalue, hothers⟩ := readItems_nil_ok hread
          rw [entries] at hwhole
          refine ⟨hfirst.absent value hvalue, ih hothers ?_⟩
          split at hwhole
          · exact hwhole.2
          · exact hwhole
      | cons item rest =>
          obtain ⟨former, hformer, hread⟩ := exists_of_bind_ok hread
          obtain ⟨others, hothers, hread⟩ := exists_of_bind_ok hread
          cases hread
          rw [entries] at hwhole
          split at hwhole
          · exact ⟨hfirst.codec.fits_of_read hformer hwhole.1, ih hothers hwhole.2⟩
          next hunwritten =>
            refine ⟨?_, ih hothers hwhole⟩
            exact hfirst.absent value (hfirst.unwritten value (by simpa using hunwritten))

theorem feedFirst_own {key : Key} {item : Tree} (hname : key.name = .ok first.key)
    {value : α} (hread : first.codec.read depth item = .ok value) (slots : others.Slots) :
    feedFirst depth first others (none, slots) (key, item) = .ok (some value, slots) := by
  rw [feedFirst_eq, hname]
  change (if first.key = first.key then _ else _) = _
  rw [if_pos rfl, hread]
  rfl

theorem feedFirst_other {member : Key × Tree} {name : String} (hname : member.1.name = .ok name)
    (hne : name ≠ first.key) {slots left : others.Slots}
    (hfed : feedMember depth others slots member = .ok left) (slot : Option α) :
    feedFirst depth first others (slot, slots) member = .ok (slot, left) := by
  rw [feedMember, hname] at hfed
  rw [feedFirst_eq, hname]
  change (if name = first.key then _ else _) = _
  rw [if_neg hne]
  exact congrArg (· >>= fun left => .ok (slot, left)) hfed

/-- Members that show other fields pass by the first one. -/
theorem foldlM_feedFirst_of_shows {members : List (Key × Tree)} {values : Members}
    (hshows : Tree.ShowsMembers members values) (hkeys : ∀ value ∈ values, value.1 ≠ first.key)
    {slots left : others.Slots} (hfed : members.foldlM (feedMember depth others) slots = .ok left)
    (slot : Option α) :
    members.foldlM (feedFirst depth first others) (slot, slots) = .ok (slot, left) := by
  induction members generalizing values slots with
  | nil =>
      cases hfed
      rfl
  | cons member rest ih =>
      cases hshows with
      | cons hname hitem hmembers =>
          obtain ⟨hkey, hrest⟩ := List.forall_mem_cons.1 hkeys
          rw [List.foldlM_cons] at hfed ⊢
          obtain ⟨next, hnext, hfed⟩ := exists_of_bind_ok hfed
          rw [feedFirst_other hname hkey hnext]
          exact ih hmembers hrest hfed

theorem Keeps.collect_of_shows (h : Keeps depth fields reserved P)
    (hkeys : (reserved ++ fields.keys).Nodup) {value : τ} (hfits : P value)
    {members : List (Key × Tree)} (hshows : Tree.ShowsMembers members (fields.entries value))
    (index : Nat) :
    ∃ slots, members.foldlM (feedMember depth fields) fields.noSlots = .ok slots ∧
      fields.collect index slots = .ok value := by
  induction h generalizing members with
  | rest =>
      refine ⟨value, ?_, rfl⟩
      have hread := Tree.toMembers_of_shows value [] hfits.nodup
        (fitsMembers_iff.2 hfits.fits) hshows
      exact (foldlM_keepMember members []).trans (congrArg liftFault hread)
  | done =>
      cases hshows
      exact ⟨(), rfl, rfl⟩
  | @field _ _ first others _ _ _ hfirst hothers ih =>
      obtain ⟨value, values⟩ := value
      rw [keys, List.append_cons] at hkeys
      have hother : ∀ member ∈ others.entries values, member.1 ≠ first.key := fun member hmem heq =>
        (hothers.apart hfits.2).key_free hkeys member hmem (by simp [heq])
      rw [entries] at hshows
      split at hshows
      next hwritten =>
        cases hshows with
        | cons hname hitem hmembers =>
            obtain ⟨slots, hfed, hcollect⟩ := ih hkeys hfits.2 hmembers
            refine ⟨(some value, slots), ?_, ?_⟩
            · have hread := hfirst.codec.read_of_shows hfits.1 hitem
              have hown := feedFirst_own hname hread others.noSlots
              have hrest := foldlM_feedFirst_of_shows hmembers hother hfed (some value)
              change List.foldlM (feedFirst depth first others) (none, others.noSlots) _ = _
              rw [List.foldlM_cons, hown]
              exact hrest
            · exact collect_of_slots (.inl rfl) hcollect
      next hunwritten =>
        obtain ⟨slots, hfed, hcollect⟩ := ih hkeys hfits.2 hshows
        refine ⟨(none, slots), foldlM_feedFirst_of_shows hshows hother hfed none, ?_⟩
        have habsent := hfirst.unwritten value (by simpa using hunwritten)
        exact collect_of_slots (.inr ⟨rfl, habsent⟩) hcollect

variable {members : List (Key × Tree)} {value : τ}

theorem Keeps.fits_of_readMembers (h : Keeps depth fields [] P) (hkeys : fields.keys.Nodup)
    {ending : Ending} (hread : fields.readMembers depth members ending = .ok value)
    (hwhole : WholeMembers (fields.write value)) : P value := by
  obtain ⟨slots, hfed, hread⟩ := exists_of_bind_ok hread
  obtain ⟨index, _, hcollect⟩ := exists_of_bind_ok hread
  have hapart : fields.Apart [] value :=
    apart_of_collect (fun _ _ => List.forall_mem_nil _) hfed hcollect
  rw [hapart.write_eq hkeys] at hwhole
  exact h.fits_of_collect hapart hfed hcollect hwhole

theorem Keeps.readMembers_of_shows (h : Keeps depth fields [] P) (hkeys : fields.keys.Nodup)
    (hfits : P value) (hshows : Tree.ShowsMembers members (fields.write value)) (stop : Nat) :
    fields.readMembers depth members (.closed stop) = .ok value := by
  rw [(h.apart hfits).write_eq hkeys] at hshows
  obtain ⟨slots, hfed, hcollect⟩ := h.collect_of_shows hkeys hfits hshows stop
  exact (congrArg (· >>= fun slots => fields.collect stop slots) hfed).trans hcollect

end Fields

namespace Codec

variable {fields : Fields τ} {P : τ → Prop} {name : String}

theorem keeps_openRecord (h : Fields.Keeps (depth + 1) fields [] P) (hkeys : fields.keys.Nodup)
    (hdepth : depth < Tree.depthLimit) : (openRecord name fields).Keeps depth P where
  fits_of_read := by
    intro tree value hread hwhole
    simp only [openRecord] at hread
    split at hread
    · obtain ⟨_, _, hread⟩ := exists_of_bind_ok hread
      exact h.fits_of_readMembers hkeys hread hwhole
    · cases hread
  whole_of_fits hfits := h.wholeMembers_write hfits
  read_of_shows := by
    intro tree value hfits hshows
    cases hshows with
    | object hmembers =>
        simp only [openRecord, Tree.enter_ok hdepth]
        exact h.readMembers_of_shows hkeys hfits hmembers _

/-- A closed record may have been given as an array, and is always written as an object. -/
theorem keeps_closedRecord (h : Fields.Keeps (depth + 1) fields [] P) (hkeys : fields.keys.Nodup)
    (hdepth : depth < Tree.depthLimit) : (closedRecord name fields).Keeps depth P where
  fits_of_read := by
    intro tree value hread hwhole
    simp only [closedRecord] at hread
    split at hread
    · obtain ⟨_, _, hread⟩ := exists_of_bind_ok hread
      exact h.fits_of_readMembers hkeys hread hwhole
    · obtain ⟨_, _, hread⟩ := exists_of_bind_ok hread
      obtain ⟨⟨former, left⟩, hitems, hread⟩ := exists_of_bind_ok hread
      obtain ⟨_, _, hread⟩ := exists_of_bind_ok hread
      cases hread
      have hapart : fields.Apart [] former := Fields.apart_of_readItems hitems
      change WholeMembers (fields.write former) at hwhole
      rw [hapart.write_eq hkeys] at hwhole
      exact h.fits_of_readItems hitems hwhole
    · cases hread
  whole_of_fits hfits := h.wholeMembers_write hfits
  read_of_shows := by
    intro tree value hfits hshows
    cases hshows with
    | object hmembers =>
        simp only [closedRecord, Tree.enter_ok hdepth]
        exact h.readMembers_of_shows hkeys hfits hmembers _

theorem decode_of_read {codec : Codec τ} {text : String} {tree : Tree} {value : τ}
    (hscan : scan text = (tree, none)) (hread : codec.read 0 tree = .ok value) :
    codec.decode text = .ok value := by
  simp only [decode, hscan, hread]
  rfl

theorem exists_of_decode {codec : Codec τ} {text : String} {value : τ}
    (h : codec.decode text = .ok value) :
    ∃ tree, scan text = (tree, none) ∧ codec.read 0 tree = .ok value := by
  obtain ⟨⟨tree, rest⟩, hscan⟩ : ∃ scanned, scan text = scanned := ⟨_, rfl⟩
  simp only [decode, hscan] at h
  cases hread : codec.read 0 tree with
  | error =>
      rw [hread] at h
      cases h
  | ok former =>
      rw [hread] at h
      cases rest with
      | none =>
          cases h
          exact ⟨tree, hscan, hread⟩
      | some => cases h

end Codec

end MockCluster.Json
