import MockCluster.Settings
import MockCluster.Toml.Reader

/-!
What sources say, as a tree of entries.

The case of names makes no difference, so they are kept in small letters.  The name at the top of
what a source says may be a path into the tree: `persist.enabled`, `document[0]`.
-/

namespace MockCluster.Settings

/-- The small form of a letter, as far as it is one of ASCII: the sign of the kelvin is a `k`. -/
def lowerChar (c : Char) : Char := if c = '\u212a' then 'k' else c.toLower

def lowered (text : String) : String := String.ofList (text.toList.map lowerChar)

inductive Entry where
  | gap
  | bool (value : Bool)
  | integer (value : Int)
  | float (value : FloatValue)
  | text (value : String)
  | list (items : List Entry)
  | table (members : List (String × Entry))
  deriving Repr, Inhabited

abbrev Entries := List (String × Entry)

mutual

def Entry.ofToml : Toml → Entry
  | .string value => .text value
  | .integer value => .integer value
  | .float value => .float value
  | .bool value => .bool value
  | .time value => .text (String.ofList value.text)
  | .array items => .list (ofItems items)
  | .table _ members => .table (ofMembers members)
  | .tables last before => .list (ofTables before [.table (ofMembers last)])

def Entry.ofItems : List Toml → List Entry
  | [] => []
  | item :: rest => ofToml item :: ofItems rest

def Entry.ofMembers : List (String × Toml) → Entries
  | [] => []
  | (key, value) :: rest => (key, ofToml value) :: ofMembers rest

def Entry.ofTables : List (List (String × Toml)) → List Entry → List Entry
  | [], after => after
  | members :: rest, after => ofTables rest (.table (ofMembers members) :: after)

end

namespace Entry

def members : Entry → Entries
  | .table members => members
  | _ => []

def items : Entry → List Entry
  | .list items => items
  | _ => []

end Entry

namespace Entries

mutual

def put (key : String) (entry : Entry) (entries : Entries) : Entries :=
  match entry with
  | .table members =>
    let below := (entries.lookup (lowered key)).getD (.table [])
    KeyedList.put (lowered key) (lay members below) entries
  | entry => KeyedList.put (lowered key) entry entries

def lay (members : List (String × Entry)) (below : Entry) : Entry :=
  match members with
  | [] => below
  | (key, entry) :: rest => lay rest (.table (put key entry below.members))

end

end Entries

inductive Step where
  | key (name : String)
  /-- A place in a list; places below zero count from its end. -/
  | place (index : Int)
  deriving DecidableEq, Repr

structure KeyPath where
  first : String
  rest : List Step
  deriving DecidableEq, Repr

namespace KeyPath

def isNameChar (c : Char) : Bool := c.isAlphanum || c = '_' || c = '-' || c = ' '

def name? (text : List Char) : Option (String × List Char) :=
  let name := text.takeWhile isNameChar
  if name = [] then none else some (String.ofList name, text.dropWhile isNameChar)

def place? (text : List Char) : Option (Int × List Char) :=
  let text := Toml.skipBlanks text
  let sign := text.take (if text.head? = some '-' then 1 else 0)
  let digits := (text.drop sign.length).takeWhile Char.isDigit
  match Toml.skipBlanks (text.drop (sign.length + digits.length)) with
  | ']' :: rest => (readInt64 (sign ++ digits)).map fun index => (index, rest)
  | _ => none

def steps? : (count : Nat) → List Char → Option (List Step)
  | _, [] => some []
  | count + 1, '.' :: rest => do
    let (name, rest) ← name? rest
    return .key name :: (← steps? count rest)
  | count + 1, '[' :: rest => do
    let (index, rest) ← place? rest
    return .place index :: (← steps? count rest)
  | _, _ => none

/-- The path that a text spells; a text that spells none is a name as a whole. -/
def ofText (text : String) : KeyPath :=
  let path? : Option KeyPath := do
    let (first, rest) ← name? text.toList
    let steps ← steps? rest.length rest
    return ⟨first, steps⟩
  path?.getD ⟨text, []⟩

end KeyPath

def placeIn? (index : Int) (size : Nat) : Option Nat :=
  if 0 ≤ index then some index.toNat
  else if index.natAbs ≤ size then some (size - index.natAbs)
  else none

def changePlace (f : Entry → Option Entry) (index : Int) (items : List Entry) :
    Option (List Entry) := do
  let place ← placeIn? index items.length
  let items := items.rightpad (place + 1) .gap
  let changed ← f (items[place]?.getD .gap)
  return items.set place changed

/-- Puts an entry where steps lead; what is in their way is replaced. -/
def Entry.assign (value : Entry) : List Step → Entry → Option Entry
  | [], _ => some value
  | [.key name], here => some (.table (Entries.put name value here.members))
  | .key name :: rest, here => do
    let inner ← assign value rest ((here.members.lookup name).getD .gap)
    return .table (KeyedList.put name inner here.members)
  | .place index :: rest, here =>
    (changePlace (assign value rest) index here.items).map .list

/-- Puts an entry where a key says, unless that is before the beginning of a list. -/
def Entries.assign (key : String) (value : Entry) (entries : Entries) : Option Entries :=
  match KeyPath.ofText key with
  | ⟨first, []⟩ => some (put first value entries)
  | ⟨first, rest⟩ =>
    (value.assign rest ((entries.lookup first).getD .gap)).map fun inner =>
      KeyedList.put first inner entries

end MockCluster.Settings
