import MockCluster.Proofs.Json.Record
import MockCluster.Proofs.Json.Strings
import MockCluster.Proofs.SumBy

/-!
How often a string stands under a name in what a codec writes, told by the value that is written.
Of a record that is at most what its fields write, and the members that are no fields.

It may be less, because one of those members takes the place of a field if it has the same key.
-/

namespace MockCluster.Json

/-- How often a string is a member under a name, at any depth. -/
def countUnder (name id : String) (value : Json) : Nat := (stringsUnder name value).count id

/-- The same for a single member. -/
def countMember (name id : String) (member : String × Json) : Nat :=
  (if member.1 = name then member.2.asString?.toList.count id else 0) + countUnder name id member.2

section Count

variable (name id : String)

theorem countUnder_array (items : List Json) :
    countUnder name id (.array items) = sumBy (countUnder name id) items := by
  rw [countUnder, stringsUnder_array, ← sumBy_eq_count, sumBy_flatMap]
  congr 1
  funext item
  exact sumBy_eq_count id _

theorem countUnder_object (members : Members) :
    countUnder name id (.object members) = sumBy (countMember name id) members := by
  induction members with
  | nil => rfl
  | cons member rest ih =>
      obtain ⟨key, value⟩ := member
      rw [sumBy_cons, ← ih, countMember, countUnder, stringsUnder_object_cons, List.count_append,
        List.count_append]
      split <;> rfl

theorem countMember_of_ne {key : String} (hkey : key ≠ name) (value : Json) :
    countMember name id (key, value) = countUnder name id value := by
  rw [countMember, if_neg hkey, Nat.zero_add]

theorem countMember_own (value : Json) :
    countMember name id (name, value) =
      value.asString?.toList.count id + countUnder name id value := by
  rw [countMember, if_pos rfl]

/-- A member that is set again later counts for nothing. -/
theorem countUnder_ofList_cons (pair : String × Json) (pairs : List (String × Json)) :
    countUnder name id (.object (Members.ofList (pair :: pairs))) =
      (if pair.1 ∈ Members.keys pairs then 0 else countMember name id pair) +
        countUnder name id (.object (Members.ofList pairs)) := by
  rw [countUnder_object, sumBy_perm _ (Members.ofList_cons_perm pair pairs), countUnder_object]
  split
  · exact (Nat.zero_add _).symm
  · exact sumBy_cons _ _ _

theorem countUnder_ofList_le (pairs : List (String × Json)) :
    countUnder name id (.object (Members.ofList pairs)) ≤ countUnder name id (.object pairs) := by
  rw [countUnder_object name id pairs]
  induction pairs with
  | nil => exact Nat.le_refl _
  | cons pair rest ih =>
      rw [countUnder_ofList_cons, sumBy_cons]
      refine Nat.add_le_add ?_ ih
      split
      · exact Nat.zero_le _
      · exact Nat.le_refl _

end Count

variable {α β τ : Type} {name id : String}

/-- What the codec writes has the string under the name at most so often. -/
def Codec.Tallies (codec : Codec α) (name id : String) (amount : α → Nat) : Prop :=
  ∀ value, countUnder name id (codec.write value) ≤ amount value

/-- The same of a record. -/
def Fields.Tallies (fields : Fields τ) (name id : String) (amount : τ → Nat) : Prop :=
  ∀ value, countUnder name id (.object (fields.write value)) ≤ amount value

namespace Codec

theorem tallies_string : string.Tallies name id fun _ => 0 := fun _ => Nat.le_refl _

theorem tallies_natBelow (limit : Nat) (expected : String) :
    (natBelow limit expected).Tallies name id fun _ => 0 := fun _ => Nat.le_refl _

theorem write_members (value : Members) : members.write value = .object value :=
  congrArg Json.object (List.map_id value)

theorem tallies_members : members.Tallies name id fun value => countUnder name id (.object value) :=
  fun value => (congrArg (countUnder name id) (write_members value)).le

variable {codec : Codec α} {amount : α → Nat}

theorem Tallies.mono (h : codec.Tallies name id amount) {other : α → Nat}
    (hle : ∀ value, amount value ≤ other value) : codec.Tallies name id other :=
  fun value => (h value).trans (hle value)

theorem Tallies.congr (h : codec.Tallies name id amount) {other : α → Nat}
    (heq : ∀ value, amount value = other value) : codec.Tallies name id other :=
  h.mono fun value => (heq value).le

theorem Tallies.imap (h : codec.Tallies name id amount) (forth : α → β) (back : β → α) :
    (codec.imap forth back).Tallies name id fun value => amount (back value) :=
  fun value => h (back value)

theorem Tallies.optional (h : codec.Tallies name id amount) :
    codec.optional.Tallies name id fun value? => sumBy amount value?.toList := by
  intro value?
  cases value? with
  | none => exact Nat.le_refl _
  | some value => exact h value

theorem Tallies.list (h : codec.Tallies name id amount) :
    codec.list.Tallies name id fun values => sumBy amount values := by
  intro values
  change countUnder name id (.array (values.map codec.write)) ≤ _
  rw [countUnder_array, sumBy_map]
  exact sumBy_le h values

/-- A keyed value is no string, so its key does not matter. -/
theorem Tallies.keyed (h : codec.Tallies name id amount)
    (hvalue : ∀ value, (codec.write value).asString? = none) {empty : β} {set : β → String → α → β}
    {toList : β → List (String × α)} :
    (Codec.keyed codec empty set toList).Tallies name id fun values =>
      sumBy (fun entry => amount entry.2) (toList values) := by
  intro values
  change countUnder name id
    (.object ((toList values).map fun pair => (pair.1, codec.write pair.2))) ≤ _
  rw [countUnder_object, sumBy_map]
  refine sumBy_le (fun entry => ?_) _
  rw [countMember, hvalue]
  simpa using h entry.2

theorem tallies_openRecord {fields : Fields τ} {amount : τ → Nat}
    (h : fields.Tallies name id amount) (record : String) :
    (openRecord record fields).Tallies name id amount := h

theorem tallies_closedRecord {fields : Fields τ} {amount : τ → Nat}
    (h : fields.Tallies name id amount) (record : String) :
    (closedRecord record fields).Tallies name id amount := h

end Codec

namespace Fields

theorem tallies_rest : Fields.rest.Tallies name id fun kept => countUnder name id (.object kept) :=
  countUnder_ofList_le name id

theorem tallies_done : Fields.done.Tallies name id fun _ => 0 := fun _ => Nat.le_refl _

theorem mem_keys_entries {fields : Fields τ} {value : τ} {key : String}
    (h : key ∈ (fields.kept value).keys) : key ∈ (fields.entries value).keys := by
  obtain ⟨modelled, hentries, -⟩ := fields.exists_entries_eq value
  rw [hentries, Members.keys, List.map_append]
  exact List.mem_append_right _ h

variable {others : Fields β} {rest : β → Nat}

theorem Tallies.memberUnlessReplaced {first : Field α} {amount : α → Nat}
    (hfirst : ∀ value, countMember name id (first.key, first.codec.write value) ≤ amount value)
    (h : others.Tallies name id rest) :
    (Fields.field first others).Tallies name id fun value =>
      (if first.key ∈ (others.kept value.2).keys then 0 else amount value.1) + rest value.2 := by
  intro ⟨value, values⟩
  change countUnder name id (.object (Members.ofList (entries _ _))) ≤ _
  rw [entries]
  split
  next =>
    rw [countUnder_ofList_cons]
    refine Nat.add_le_add ?_ (h values)
    by_cases hreplaced : first.key ∈ (others.kept values).keys
    · rw [if_pos hreplaced, if_pos (mem_keys_entries hreplaced)]
    · rw [if_neg hreplaced]
      split
      · exact Nat.zero_le _
      · exact hfirst value
  next => exact (h values).trans (Nat.le_add_left _ _)

theorem Tallies.member {first : Field α} {amount : α → Nat}
    (hfirst : ∀ value, countMember name id (first.key, first.codec.write value) ≤ amount value)
    (h : others.Tallies name id rest) :
    (Fields.field first others).Tallies name id fun value => amount value.1 + rest value.2 := by
  intro value
  refine (memberUnlessReplaced hfirst h value).trans (Nat.add_le_add_right ?_ _)
  split
  · exact Nat.zero_le _
  · exact Nat.le_refl _

/-- A field of another name counts unless a member that is no field takes its place. -/
theorem Tallies.unlessReplaced {first : Field α} {amount : α → Nat} (hkey : first.key ≠ name)
    (hfirst : first.codec.Tallies name id amount) (h : others.Tallies name id rest) :
    (Fields.field first others).Tallies name id fun value =>
      (if first.key ∈ (others.kept value.2).keys then 0 else amount value.1) + rest value.2 :=
  memberUnlessReplaced (fun value => (countMember_of_ne name id hkey _).trans_le (hfirst value)) h

/-- A field of another name. -/
theorem Tallies.field {first : Field α} {amount : α → Nat} (hkey : first.key ≠ name)
    (hfirst : first.codec.Tallies name id amount) (h : others.Tallies name id rest) :
    (Fields.field first others).Tallies name id fun value => amount value.1 + rest value.2 :=
  member (fun value => (countMember_of_ne name id hkey _).trans_le (hfirst value)) h

/-- The field of the name. -/
theorem Tallies.own (h : others.Tallies name id rest) :
    (Fields.field (.optionalString name) others).Tallies name id fun value =>
      value.1.toList.count id + rest value.2 := by
  have hfirst : ∀ value?, countMember name id ((Field.optionalString name).key,
      (Field.optionalString name).codec.write value?) ≤ value?.toList.count id := by
    intro value?
    cases value? with
    | none => exact (countMember_own name id .null).le
    | some value => exact (countMember_own name id (.string value)).le
  exact member hfirst h

/-- A field whose values have nothing under the name. -/
theorem Tallies.plain {first : Field α} (hkey : first.key ≠ name)
    (hfirst : first.codec.Tallies name id fun _ => 0) (h : others.Tallies name id rest) :
    (Fields.field first others).Tallies name id fun value => rest value.2 := by
  simpa using field hkey hfirst h

theorem Tallies.string {key : String} (hkey : key ≠ name) (h : others.Tallies name id rest) :
    (Fields.field (.string key) others).Tallies name id fun value => rest value.2 :=
  plain hkey Codec.tallies_string h

theorem Tallies.optionalString {key : String} (hkey : key ≠ name)
    (h : others.Tallies name id rest) :
    (Fields.field (.optionalString key) others).Tallies name id fun value => rest value.2 :=
  plain hkey (Codec.tallies_string.optional.congr fun _ => sumBy_zero _) h

theorem Tallies.optionalNumber {key : String} {limit : Nat} {expected : String} (hkey : key ≠ name)
    (h : others.Tallies name id rest) :
    (Fields.field (.optional key (.natBelow limit expected)) others).Tallies name id fun value =>
      rest value.2 :=
  plain hkey ((Codec.tallies_natBelow limit expected).optional.congr fun _ => sumBy_zero _) h

end Fields

end MockCluster.Json
