import MockCluster.Json.Codec

/-!
Records, described field by field.

Members are read in the order of the text, each into the slot of its field, so that the first
problem of the text is the one reported.  An open record keeps the members that are no fields, a
closed one passes over them and may also be given as an array of its fields.
-/

namespace MockCluster.Json

structure Field (α : Type) where
  key : String
  codec : Codec α
  /-- The value of an absent member; a field without one must be there. -/
  absent : Option α
  isWritten : α → Bool

namespace Field

variable {α : Type}

def required (key : String) (codec : Codec α) : Field α :=
  ⟨key, codec, none, fun _ => true⟩

def withDefault (key : String) (codec : Codec α) (value : α) : Field α :=
  ⟨key, codec, some value, fun _ => true⟩

def string (key : String) : Field String := withDefault key Codec.string ""

def optional (key : String) (codec : Codec α) : Field (Option α) :=
  ⟨key, codec.optional, some none, Option.isSome⟩

def optionalString (key : String) : Field (Option String) := optional key Codec.string

def list (key : String) (codec : Codec α) : Field (List α) := withDefault key codec.list []

def listUnlessEmpty (key : String) (codec : Codec α) : Field (List α) :=
  ⟨key, codec.list, some [], fun items => !items.isEmpty⟩

end Field

/-- The fields of a record in order, and what becomes of other members: they are kept in `rest`, or
passed over. -/
inductive Fields : Type → Type 1 where
  | rest : Fields Members
  | done : Fields Unit
  | field {α β : Type} (first : Field α) (others : Fields β) : Fields (α × β)

namespace Fields

def Slots : {τ : Type} → Fields τ → Type
  | _, .rest => Members
  | _, .done => Unit
  | _, .field (α := α) _ others => Option α × others.Slots

def noSlots : {τ : Type} → (fields : Fields τ) → fields.Slots
  | _, .rest => ([] : Members)
  | _, .done => ()
  | _, .field _ others => (none, others.noSlots)

def size : {τ : Type} → Fields τ → Nat
  | _, .rest => 0
  | _, .done => 0
  | _, .field _ others => others.size + 1

def feed (depth : Nat) (name : String) (resume : Nat) (item : Tree) :
    {τ : Type} → (fields : Fields τ) → fields.Slots → Except Problem fields.Slots
  | _, .rest, kept => do
    let value ← liftFault (item.toJson depth)
    return Members.set name value kept
  | _, .done, slots => do
    liftFault item.skip
    return slots
  | _, .field first others, slots =>
    if name = first.key then
      if slots.1.isSome then .error (.duplicateField name resume)
      else do
        let value ← first.codec.read depth item
        return (some value, slots.2)
    else do
      let rest ← feed depth name resume item others slots.2
      return (slots.1, rest)

def collect (index : Nat) : {τ : Type} → (fields : Fields τ) → fields.Slots → Except Problem τ
  | _, .rest, kept => .ok kept
  | _, .done, _ => .ok ()
  | _, .field first others, slots => do
    let value ← match slots.1, first.absent with
      | some value, _ => .ok value
      | none, some value => .ok value
      | none, none => .error (.missingField first.key index)
    let values ← collect index others slots.2
    return (value, values)

def readItems (depth : Nat) (expected : String) (ending : Ending) :
    {τ : Type} → Fields τ → Nat → List Tree → Except Problem (τ × List Tree)
  | _, .rest, _, items => .ok ([], items)
  | _, .done, _, items => .ok ((), items)
  | _, .field first others, count, item :: items => do
    let value ← first.codec.read depth item
    let (values, left) ← readItems depth expected ending others (count + 1) items
    return ((value, values), left)
  | _, .field first others, count, [] => do
    let index ← liftFault (Tree.Ending.check ending)
    let value ← match first.absent with
      | some value => .ok value
      | none => .error (.tooFew count expected index)
    let (values, left) ← readItems depth expected ending others count []
    return ((value, values), left)

/-- The members of a record in turn: those of its fields, and then the others. -/
def entries : {τ : Type} → Fields τ → τ → Members
  | _, .rest, kept => kept
  | _, .done, _ => []
  | _, .field first others, (value, values) =>
    if first.isWritten value then (first.key, first.codec.write value) :: others.entries values
    else others.entries values

variable {τ : Type}

/-- A record is written member by member, so one that is no field but has the key of one takes its
place. -/
def write (fields : Fields τ) (value : τ) : Members := Members.ofList (fields.entries value)

def readMembers (fields : Fields τ) (depth : Nat) (members : List (Key × Tree))
    (ending : Ending) : Except Problem τ := do
  let slots ← members.foldlM (fun slots (key, item) => do
    let name ← liftFault key.name
    fields.feed depth name key.resume item slots) fields.noSlots
  let index ← liftFault (Tree.Ending.check ending)
  fields.collect index slots

end Fields

namespace Codec

variable {τ : Type}

def openRecord (name : String) (fields : Fields τ) : Codec τ where
  read depth tree :=
    match tree with
    | .object start members ending => do
      liftFault (Tree.enter depth start)
      fields.readMembers (depth + 1) members ending
    | tree => .error (tree.mismatch ("struct " ++ name))
  write value := .object (fields.write value)

def endItems (ending : Ending) (count : Nat) : List Tree → Except Problem Unit
  | item :: _ => .error (.tooMany count (item.start + 1))
  | [] =>
    match ending with
    | .closed _ => .ok ()
    | .broken breach =>
      match breach.strict.cause with
      | .endInValue | .itemEndDue => .error (.syntaxFault { breach.strict with cause := .textAfterEnd })
      | _ => .error (.syntaxFault breach.strict)

def withElements (name : String) (size : Nat) : String :=
  "struct " ++ name ++ " with " ++ toString size ++ (if size = 1 then " element" else " elements")

def closedRecord (name : String) (fields : Fields τ) : Codec τ where
  read depth tree :=
    match tree with
    | .object start members ending => do
      liftFault (Tree.enter depth start)
      fields.readMembers (depth + 1) members ending
    | .array start items ending => do
      liftFault (Tree.enter depth start)
      let (value, left) ←
        fields.readItems (depth + 1) (withElements name fields.size) ending 0 items
      endItems ending items.length left
      return value
    | tree => .error (tree.mismatch ("struct " ++ name))
  write value := .object (fields.write value)

def decode (codec : Codec τ) (text : String) : Except TextProblem τ :=
  let result : Except Problem τ := do
    let (tree, rest) := scan text
    let value ← codec.read 0 tree
    match rest with
    | none => .ok value
    | some fault => .error (.syntaxFault fault)
  result.mapError fun problem => TextProblem.of problem text

def ofJson (codec : Codec τ) (value : Json) : Except Problem τ :=
  codec.read 0 (Tree.ofJson value)

def encode (codec : Codec τ) (value : τ) : String :=
  (codec.write value).compact

end Codec

end MockCluster.Json
