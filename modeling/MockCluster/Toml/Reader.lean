import MockCluster.Toml.Number

/-!
Reading TOML: headers, dotted keys, strings, numbers, booleans, dates and times, arrays and inline
tables.
-/

namespace MockCluster.Toml

def word : Reader Toml := fun text =>
  match text with
  | 't' :: 'r' :: 'u' :: 'e' :: rest => some (.bool true, rest)
  | 'f' :: 'a' :: 'l' :: 's' :: 'e' :: rest => some (.bool false, rest)
  | text =>
    match moment text with
    | some (value, rest) => some (.time value, rest)
    | none => number text

def skipLines : (steps : Nat) → List Char → List Char
  | 0, text => text
  | steps + 1, text =>
    let text := skipBlanks text
    match afterBreak? (skipComment text) with
    | some rest => skipLines steps rest
    | none => text

mutual

/-- A value; arrays and inline tables stand in one another no deeper than `levels`. -/
def value (levels : Nat) (text : List Char) : Option (Toml × List Char) :=
  match levels, text with
  | 0, '[' :: _ | 0, '\x7b' :: _ => none
  | levels + 1, '[' :: rest =>
    (items levels rest.length rest).map fun (items, rest) => (.array items, rest)
  | levels + 1, '\x7b' :: rest =>
    match skipBlanks rest with
    | '\x7d' :: rest => some (.table .inline [], rest)
    | rest =>
      (members levels rest.length [] rest).map fun (members, rest) =>
        (.table .inline members, rest)
  | _, '"' :: _ | _, '\'' :: _ => (quoted text).map fun (value, rest) => (.string value, rest)
  | _, text => word text
termination_by (levels, 0)

/-- The items of an array and its closing bracket; `count` bounds their number. -/
def items (levels count : Nat) (text : List Char) : Option (List Toml × List Char) :=
  match count with
  | 0 => none
  | count + 1 =>
    match skipLines text.length text with
    | ']' :: rest => some ([], rest)
    | text => do
      let (first, rest) ← value levels text
      match skipLines rest.length rest with
      | ',' :: rest =>
        let (others, rest) ← items levels count rest
        some (first :: others, rest)
      | ']' :: rest => some ([first], rest)
      | _ => none
termination_by (levels, count)

def members (levels count : Nat) (before : Members) (text : List Char) :
    Option (Members × List Char) :=
  match count with
  | 0 => none
  | count + 1 => do
    let (key, rest) ← key text
    let (value, rest) ← value levels (skipBlanks (← expect '=' rest))
    let before ← before.assign value key
    match skipBlanks rest with
    | ',' :: rest => members levels count before rest
    | '\x7d' :: rest => some (before, rest)
    | _ => none
termination_by (levels, count)

end

/-- The tables read so far, and the path of the one that keys are assigned in. -/
structure Progress where
  root : Members := []
  path : List String := []

def Progress.header (progress : Progress) (adds : Bool) (text : List Char) :
    Option (Progress × List Char) := do
  let (path, rest) ← key text
  let rest ← expect ']' rest
  let rest ← if adds then expect ']' rest else some rest
  let rest ← lineEnd rest
  let root ← progress.root.openTable adds path
  some (⟨root, path⟩, rest)

def Progress.assignment (progress : Progress) (text : List Char) :
    Option (Progress × List Char) := do
  let (key, rest) ← key text
  let (value, rest) ← value levelLimit (skipBlanks (← expect '=' rest))
  let rest ← lineEnd rest
  let root ← progress.root.descend (·.assign value key) progress.path
  some ({ progress with root := root }, rest)

def readLines : (lines : Nat) → Progress → List Char → Option Members
  | 0, _, _ => none
  | lines + 1, progress, text =>
    match skipBlanks text with
    | [] => some progress.root
    | '[' :: '[' :: rest => do
      let (progress, rest) ← progress.header true rest
      readLines lines progress rest
    | '[' :: rest => do
      let (progress, rest) ← progress.header false rest
      readLines lines progress rest
    | text =>
      match lineEnd text with
      | some rest => readLines lines progress rest
      | none => do
        let (progress, rest) ← progress.assignment text
        readLines lines progress rest

def skipMark : List Char → List Char
  | '\ufeff' :: rest => rest
  | text => text

def read (text : String) : Option Members :=
  readLines (text.length + 2) {} (skipMark text.toList)

end MockCluster.Toml
