import MockCluster.Json.Value

/-!
Text as a tree that remembers where things stand, and that may be broken off.

A syntax fault is a place in the tree: a value that is broken, or an array or object that does not
close.  So a reader of records that goes through the tree in the order of the text finds the first
problem, whether it is one of syntax or one of shape.

Offsets count bytes from the start of the text.
-/

namespace MockCluster.Json

inductive Cause where
  | endInValue
  | endInArray
  | endInObject
  | endInString
  | valueDue
  | keyDue
  | colonDue
  | itemEndDue
  | memberEndDue
  | danglingComma
  | textAfterEnd
  | misspeltWord
  | malformedNumber
  | numberTooLarge
  | unknownEscape
  | loneSurrogate
  | cutSurrogate
  | controlCharacter
  | tooDeep
  deriving DecidableEq, Repr

def Cause.message : Cause → String
  | .endInValue => "EOF while parsing a value"
  | .endInArray => "EOF while parsing a list"
  | .endInObject => "EOF while parsing an object"
  | .endInString => "EOF while parsing a string"
  | .valueDue => "expected value"
  | .keyDue => "key must be a string"
  | .colonDue => "expected `:`"
  | .itemEndDue => "expected `,` or `]`"
  | .memberEndDue => "expected `,` or `\x7d`"
  | .danglingComma => "trailing comma"
  | .textAfterEnd => "trailing characters"
  | .misspeltWord => "expected ident"
  | .malformedNumber => "invalid number"
  | .numberTooLarge => "number out of range"
  | .unknownEscape => "invalid escape"
  | .loneSurrogate => "lone leading surrogate in hex escape"
  | .cutSurrogate => "unexpected end of hex escape"
  | .controlCharacter => "control character (\\u0000-\\u001F) found while parsing a string"
  | .tooDeep => "recursion limit exceeded"

/-- A cause and the number of bytes up to and including the offending one. -/
structure Fault where
  cause : Cause
  index : Nat
  deriving DecidableEq, Repr

/-- Where text breaks off: what a reader reports who needs the data, and what one reports who only
skips over it. -/
structure Breach where
  strict : Fault
  lenient : Fault
  deriving DecidableEq, Repr

def Breach.of (cause : Cause) (index : Nat) : Breach :=
  ⟨⟨cause, index⟩, ⟨cause, index⟩⟩

inductive Scalar where
  | null
  | bool (value : Bool)
  | number (value : Number)
  | string (value : String)
  /-- Well-formed text without a value: only a reader who skips it may go on. -/
  | unreadable (fault : Fault)
  deriving DecidableEq, Repr

/-- The key of a member; its offsets are those of the end of the key, of the place reached by a
reader who gives up just after it, and of the comma after the member.  A value that stands where a
key is due is a member too, with that fault for its name. -/
structure Key where
  name : Except Fault String
  stop : Nat
  resume : Nat
  comma : Nat

def Key.skip (key : Key) : Except Fault Unit :=
  match key.name with
  | .ok _ => .ok ()
  | .error fault => if fault.cause = .keyDue then .error fault else .ok ()

inductive Ending where
  | closed (stop : Nat)
  | broken (breach : Breach)
  deriving DecidableEq, Repr

inductive Tree where
  | leaf (start stop : Nat) (scalar : Scalar)
  | array (start : Nat) (items : List Tree) (ending : Ending)
  | object (start : Nat) (members : List (Key × Tree)) (ending : Ending)
  | broken (start : Nat) (breach : Breach)

namespace Tree

def start : Tree → Nat
  | .leaf start _ _ | .array start _ _ | .object start _ _ | .broken start _ => start

mutual

def ofJson : Json → Tree
  | .null => .leaf 0 0 .null
  | .bool value => .leaf 0 0 (.bool value)
  | .number value => .leaf 0 0 (.number value)
  | .string value => .leaf 0 0 (.string value)
  | .array items => .array 0 (ofItems items) (.closed 0)
  | .object members => .object 0 (ofMembers members) (.closed 0)

def ofItems : List Json → List Tree
  | [] => []
  | item :: rest => ofJson item :: ofItems rest

def ofMembers : List (String × Json) → List (Key × Tree)
  | [] => []
  | (key, value) :: rest => (⟨.ok key, 0, 0, 0⟩, ofJson value) :: ofMembers rest

end

/-- Arrays and objects may stand inside one another up to this number of levels. -/
def depthLimit : Nat := 127

/-- Refuses an array or object that starts at `start` inside `depth` others when that is too deep. -/
def enter (depth start : Nat) : Except Fault Unit :=
  if depth < depthLimit then .ok () else .error ⟨.tooDeep, start + 1⟩

def Ending.check : Ending → Except Fault Nat
  | .closed stop => .ok stop
  | .broken breach => .error breach.strict

mutual

def toJson (depth : Nat) : Tree → Except Fault Json
  | .leaf _ _ scalar =>
    match scalar with
    | .null => .ok .null
    | .bool value => .ok (.bool value)
    | .number value => .ok (.number value)
    | .string value => .ok (.string value)
    | .unreadable fault => .error fault
  | .array start items ending => do
    enter depth start
    let values ← toItems (depth + 1) items
    let _ ← Ending.check ending
    return .array values
  | .object start members ending => do
    enter depth start
    let values ← toMembers (depth + 1) [] members
    let _ ← Ending.check ending
    return .object values
  | .broken _ breach => .error breach.strict

def toItems (depth : Nat) : List Tree → Except Fault (List Json)
  | [] => .ok []
  | item :: rest => do
    let value ← toJson depth item
    let values ← toItems depth rest
    return value :: values

def toMembers (depth : Nat) (read : Members) : List (Key × Tree) → Except Fault Members
  | [] => .ok read
  | (key, item) :: rest => do
    let name ← key.name
    let value ← toJson depth item
    toMembers depth (read.set name value) rest

end

mutual

def skip : Tree → Except Fault Unit
  | .leaf _ _ _ => .ok ()
  | .array _ items ending => do
    skipItems items
    skipEnding ending
  | .object _ members ending => do
    skipMembers members
    skipEnding ending
  | .broken _ breach => .error breach.lenient

def skipItems : List Tree → Except Fault Unit
  | [] => .ok ()
  | item :: rest => do
    skip item
    skipItems rest

def skipMembers : List (Key × Tree) → Except Fault Unit
  | [] => .ok ()
  | (key, item) :: rest => do
    key.skip
    skip item
    skipMembers rest

def skipEnding : Ending → Except Fault Unit
  | .closed _ => .ok ()
  | .broken breach => .error breach.lenient

end

end Tree

end MockCluster.Json
