import MockCluster.Settings.Entry

/-!
Settings from what files and the environment say: later sources override earlier ones key by key,
and values are converted to what a setting needs.
-/

namespace MockCluster.Settings

structure Unusable where
  key : String
  deriving DecidableEq, Repr

def Unusable.message (fault : Unusable) : String :=
  "unusable value for " ++ fault.key

def affirmations : List String := ["true", "on", "yes"]

def denials : List String := ["false", "off", "no"]

/-- Numbers other than zero are true. -/
def toBool? : Entry → Option Bool
  | .bool value => some value
  | .integer value => some (value ≠ 0)
  | .float (.finite value) => some !value.isZero
  | .float _ => some true
  | .text value =>
    if lowered value ∈ "1" :: affirmations then some true
    else if lowered value ∈ "0" :: denials then some false
    else none
  | .gap | .list _ | .table _ => none

/-- Digits, with at most a plus before them, that fit a 64-bit word. -/
def readWord? (text : String) : Option Nat :=
  let digits :=
    match text.toList with
    | '+' :: rest => rest
    | all => all
  if digits = [] ∨ !digits.all Char.isDigit then none
  else (some (FloatValue.natOf digits)).filter (· < twoTo 64)

def toCount? : Entry → Option Nat
  | .bool value => some value.toNat
  | .integer value => if 0 ≤ value then some value.toNat else none
  | .float value => some value.toWord
  | .text value =>
    if lowered value ∈ affirmations then some 1
    else if lowered value ∈ denials then some 0
    else readWord? value
  | .gap | .list _ | .table _ => none

def toText? : Entry → Option String
  | .bool value => some (if value then "true" else "false")
  | .integer value => some (toString value)
  | .float value => some value.text
  | .text value => some value
  | .gap | .list _ | .table _ => none

/-- A section is a table, or a list of the values of its keys in their order. -/
inductive Section where
  | byName (members : Entries)
  | byPlace (items : List Entry)

def sectionOf (entries : Entries) (key : String) : Except Unusable Section :=
  match entries.lookup key with
  | none => .ok (.byName [])
  | some (.table members) => .ok (.byName members)
  | some (.list items) => .ok (.byPlace items)
  | some _ => .error ⟨key⟩

def Section.find? (source : Section) (place : Nat) (key : String) : Option Entry :=
  match source with
  | .byName members => members.lookup key
  | .byPlace items => items[place]?

def Section.take {α : Type} (source : Section) (convert : Entry → Option α) (default : α)
    (place : Nat) (key : String) : Except Unusable α :=
  match source.find? place key with
  | none => .ok default
  | some entry =>
    match convert entry with
    | some value => .ok value
    | none => .error ⟨key⟩

def ofEntries (entries : Entries) : Except Unusable Settings := do
  let document ← sectionOf entries "document"
  let synthesis ← sectionOf entries "synthesis"
  let persist ← sectionOf entries "persist"
  let repair ← sectionOf entries "repair"
  let documentPath ← document.take toText? standard.documentPath 0 "path"
  let serviceCount ← synthesis.take toCount? standard.synthesis.serviceCount 0 "service_count"
  let taskServices ← synthesis.take toCount? standard.synthesis.taskServices 1 "task_services"
  let enabled ← persist.take toBool? standard.writeBack.enabled 0 "enabled"
  let backupSuffix ← persist.take toText? standard.writeBack.backupSuffix 1 "backup_suffix"
  let tempSuffix ← persist.take toText? standard.writeBack.tempSuffix 2 "temp_suffix"
  let stubs ←
    repair.take toBool? standard.repair.backfillServiceStubs 0 "backfill_service_stubs"
  let untyped ← repair.take toBool? standard.repair.renamesInUntyped 1 "rewrite_unknown_fields"
  return {
    documentPath := documentPath
    synthesis := ⟨serviceCount, taskServices⟩
    writeBack := ⟨enabled, backupSuffix, tempSuffix⟩
    repair := ⟨stubs, untyped⟩ }

/-- The value of an environment variable: a boolean, an integer, a float, or else a string. -/
def ofVariable (text : String) : Entry :=
  if lowered text = "true" then .bool true
  else if lowered text = "false" then .bool false
  else
    match readInt64 text.toList with
    | some value => .integer value
    | none =>
      match FloatValue.read text with
      | some value => .float value
      | none => .text text

def variableStart : List Char := "fixtures__".toList

def dotted : List Char → List Char
  | '_' :: '_' :: rest => '.' :: dotted rest
  | c :: rest => c :: dotted rest
  | [] => []

/-- The key that an environment variable is about, `FIXTURES__SECTION__KEY` in any case. -/
def variableKey? (name : String) : Option String :=
  let name := (lowered name).toList
  if variableStart.isPrefixOf name then
    some (String.ofList (dotted (name.drop variableStart.length)))
  else none

end MockCluster.Settings
