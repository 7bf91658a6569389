import MockCluster.Json.Problem
import MockCluster.Json.Scan

/-!
Readers and writers of typed data in pairs.

A codec reads a tree that stands inside a number of arrays and objects, and writes a value.  Records
are described once, field by field; the description reads members in the order of the text, so that
the first problem wins, and writes them in the order of the fields.
-/

namespace MockCluster.Json

structure Codec (α : Type) where
  read : Nat → Tree → Except Problem α
  write : α → Json

def liftFault {α : Type} (result : Except Fault α) : Except Problem α :=
  result.mapError .syntaxFault

def Tree.mismatch (expected : String) : Tree → Problem
  | .leaf _ stop .null => .mismatch .null expected stop
  | .leaf _ stop (.bool value) => .mismatch (.bool value) expected stop
  | .leaf _ stop (.number value) => .mismatch (.number value) expected stop
  | .leaf _ stop (.string value) => .mismatch (.string value) expected stop
  | .leaf _ _ (.unreadable fault) => .syntaxFault fault
  | .array start _ _ => .mismatch .array expected start
  | .object start _ _ => .mismatch .object expected start
  | .broken _ breach => .syntaxFault breach.strict

namespace Codec

variable {α β τ : Type}

def imap (forth : α → β) (back : β → α) (codec : Codec α) : Codec β where
  read depth tree := (codec.read depth tree).map forth
  write value := codec.write (back value)

def stringAs (expected : String) : Codec String where
  read _ tree :=
    match tree with
    | .leaf _ _ (.string value) => .ok value
    | tree => .error (tree.mismatch expected)
  write := .string

def string : Codec String := stringAs "a string"

def path : Codec String := stringAs "path string"

def bool : Codec Bool where
  read _ tree :=
    match tree with
    | .leaf _ _ (.bool value) => .ok value
    | tree => .error (tree.mismatch "a boolean")
  write := .bool

def natBelow (limit : Nat) (expected : String) : Codec Nat where
  read _ tree :=
    match tree with
    | .leaf _ stop (.number (.integer value)) =>
      if 0 ≤ value ∧ value < limit then .ok value.toNat
      else .error (.outOfRange (.number (.integer value)) expected stop)
    | tree => .error (tree.mismatch expected)
  write := .ofNat

def word32 : Codec Nat := natBelow (twoTo 32) "u32"

def word64 : Codec Nat := natBelow (twoTo 64) "u64"

def count : Codec Nat := natBelow (twoTo 64) "usize"

def optional (codec : Codec α) : Codec (Option α) where
  read depth tree :=
    match tree with
    | .leaf _ _ .null => .ok none
    | tree => (codec.read depth tree).map some
  write
    | none => .null
    | some value => codec.write value

def list (codec : Codec α) : Codec (List α) where
  read depth tree :=
    match tree with
    | .array start items ending => do
      liftFault (Tree.enter depth start)
      let values ← items.mapM (codec.read (depth + 1))
      let _ ← liftFault (Tree.Ending.check ending)
      return values
    | tree => .error (tree.mismatch "a sequence")
  write values := .array (values.map codec.write)

/-- Objects whose members are all of one kind, read into what `set` builds from `empty`. -/
def keyed (codec : Codec α) (empty : β) (set : β → String → α → β)
    (toList : β → List (String × α)) : Codec β where
  read depth tree :=
    match tree with
    | .object start members ending => do
      liftFault (Tree.enter depth start)
      let values ← members.foldlM (fun values (key, item) => do
        let name ← liftFault key.name
        let value ← codec.read (depth + 1) item
        return set values name value) empty
      let _ ← liftFault (Tree.Ending.check ending)
      return values
    | tree => .error (tree.mismatch "a map")
  write values := .object ((toList values).map fun pair => (pair.1, codec.write pair.2))

def any : Codec Json where
  read depth tree := liftFault (tree.toJson depth)
  write := id

def members : Codec Members :=
  keyed any [] (fun members key value => members.set key value) id

def unit : Codec Unit where
  read _ tree :=
    match tree with
    | .leaf _ _ .null => .ok ()
    | tree => .error (tree.mismatch "unit")
  write _ := .null

def readVariant (known : List α) (nameOf : α → String) (name : String) (index : Nat) :
    Except Problem α :=
  match known.find? fun value => nameOf value = name with
  | some value => .ok value
  | none => .error (.unknownVariant name (known.map nameOf) index)

/-- What a reader of text finds in an object that names a constant: the first member counts, and no
other may follow. -/
def readVariantObject (known : List α) (nameOf : α → String) (depth start : Nat)
    (members : List (Key × Tree)) (ending : Ending) : Except Problem α := do
  liftFault (Tree.enter depth start)
  match members with
  | [] =>
    match ending with
    | .closed stop => .error (.syntaxFault ⟨.valueDue, stop⟩)
    | .broken breach => .error (.syntaxFault breach.strict)
  | (key, item) :: rest =>
    let name ← liftFault key.name
    let value ← readVariant known nameOf name key.stop
    unit.read (depth + 1) item
    match rest, ending with
    | [], .closed _ => .ok value
    | [], .broken breach =>
      .error (.syntaxFault
        (match breach.strict.cause with
        | .endInObject => breach.strict
        | .memberEndDue => ⟨.valueDue, breach.strict.index - 1⟩
        | _ => ⟨.valueDue, key.comma⟩))
    | _ :: _, _ => .error (.syntaxFault ⟨.valueDue, key.comma⟩)

/-- What is reported of broken text where a constant is expected: strings are read to their fault,
anything else is refused at its first character, and a missing colon comes before the value. -/
def brokenVariant (start : Nat) (fault : Fault) : Fault :=
  match fault.cause with
  | .endInString | .unknownEscape | .loneSurrogate | .cutSurrogate | .controlCharacter
  | .colonDue | .endInObject => fault
  | .endInValue => if fault.index = start then fault else ⟨.valueDue, start + 1⟩
  | _ => ⟨.valueDue, start + 1⟩

/-- Constants by name: the name as a string, or as the only member of an object, with a null. -/
def variant (known : List α) (nameOf : α → String) : Codec α where
  read depth tree :=
    match tree with
    | .leaf _ stop (.string name) => readVariant known nameOf name stop
    | .leaf start _ (.unreadable fault) => .error (.syntaxFault (brokenVariant start fault))
    | .leaf start _ .null => .error (.noVariant .null (start + 1))
    | .leaf start _ (.bool value) => .error (.noVariant (.bool value) (start + 1))
    | .leaf start _ (.number value) => .error (.noVariant (.number value) (start + 1))
    | .array start _ _ => .error (.noVariant .array (start + 1))
    | .object start members ending =>
      match members, readVariantObject known nameOf depth start members ending with
      | [_], result => result
      | _, .ok value => .ok value
      | _, .error problem => .error (.notOneMember problem)
    | .broken start breach => .error (.syntaxFault (brokenVariant start breach.strict))
  write value := .string (nameOf value)

end Codec

end MockCluster.Json
