import MockCluster.Json.Tree

/-!
What a tree shows of a value, wherever in a text it stands, and the values whose numbers are told
without loss.
-/

namespace MockCluster.Json

/-- An integer of a machine word, or the float that the integer literal `-0` stands for. -/
def Number.Whole : Number → Prop
  | .integer value => -twoTo 63 ≤ value ∧ value < twoTo 64
  | .float value => value = Binary64.zero.neg

mutual

/-- All numbers of a value are whole. -/
def Whole : Json → Prop
  | .null | .bool _ | .string _ => True
  | .number value => value.Whole
  | .array items => WholeItems items
  | .object members => WholeMembers members

def WholeItems : List Json → Prop
  | [] => True
  | item :: rest => Whole item ∧ WholeItems rest

def WholeMembers : List (String × Json) → Prop
  | [] => True
  | (_, value) :: rest => Whole value ∧ WholeMembers rest

end

instance (value : Number) : Decidable value.Whole :=
  match value with
  | .integer _ => inferInstanceAs (Decidable (_ ∧ _))
  | .float _ => inferInstanceAs (Decidable (_ = _))

mutual

def decideWhole : (value : Json) → Decidable (Whole value)
  | .null | .bool _ | .string _ => isTrue trivial
  | .number value => inferInstanceAs (Decidable value.Whole)
  | .array items => decideWholeItems items
  | .object members => decideWholeMembers members

def decideWholeItems : (items : List Json) → Decidable (WholeItems items)
  | [] => isTrue trivial
  | item :: rest =>
    match decideWhole item, decideWholeItems rest with
    | isTrue h, isTrue hrest => isTrue ⟨h, hrest⟩
    | isFalse h, _ => isFalse fun both => h both.1
    | _, isFalse h => isFalse fun both => h both.2

def decideWholeMembers : (members : List (String × Json)) → Decidable (WholeMembers members)
  | [] => isTrue trivial
  | (_, value) :: rest =>
    match decideWhole value, decideWholeMembers rest with
    | isTrue h, isTrue hrest => isTrue ⟨h, hrest⟩
    | isFalse h, _ => isFalse fun both => h both.1
    | _, isFalse h => isFalse fun both => h both.2

end

instance (value : Json) : Decidable value.Whole := decideWhole value

theorem wholeItems_iff {items : List Json} : WholeItems items ↔ ∀ item ∈ items, Whole item := by
  induction items with
  | nil => simp [WholeItems]
  | cons item rest ih => simp [WholeItems, ih]

theorem wholeMembers_iff {members : Members} :
    WholeMembers members ↔ ∀ member ∈ members, Whole member.2 := by
  induction members with
  | nil => simp [WholeMembers]
  | cons member rest ih => simp [WholeMembers, ih]

namespace Tree

mutual

/-- The tree stands for the value, up to where its parts are. -/
inductive Shows : Tree → Json → Prop where
  | null {start stop : Nat} : Shows (.leaf start stop .null) .null
  | bool {start stop : Nat} {value : Bool} : Shows (.leaf start stop (.bool value)) (.bool value)
  | number {start stop : Nat} {value : Number} :
      Shows (.leaf start stop (.number value)) (.number value)
  | string {start stop : Nat} {value : String} :
      Shows (.leaf start stop (.string value)) (.string value)
  | array {start stop : Nat} {items : List Tree} {values : List Json}
      (hitems : ShowsItems items values) :
      Shows (.array start items (.closed stop)) (.array values)
  | object {start stop : Nat} {members : List (Key × Tree)} {values : List (String × Json)}
      (hmembers : ShowsMembers members values) :
      Shows (.object start members (.closed stop)) (.object values)

inductive ShowsItems : List Tree → List Json → Prop where
  | nil : ShowsItems [] []
  | cons {item : Tree} {items : List Tree} {value : Json} {values : List Json}
      (hitem : Shows item value) (hitems : ShowsItems items values) :
      ShowsItems (item :: items) (value :: values)

inductive ShowsMembers : List (Key × Tree) → List (String × Json) → Prop where
  | nil : ShowsMembers [] []
  | cons {key : Key} {item : Tree} {members : List (Key × Tree)} {name : String} {value : Json}
      {values : List (String × Json)} (hname : key.name = .ok name) (hitem : Shows item value)
      (hmembers : ShowsMembers members values) :
      ShowsMembers ((key, item) :: members) ((name, value) :: values)

end

end Tree

end MockCluster.Json
