/-!
The small parts of TOML text: blanks, comments, line breaks, strings and keys.

Each reader takes what it reads off the front of a text and gives back the rest.
-/

namespace MockCluster.Toml

abbrev Reader (α : Type) := List Char → Option (α × List Char)

def isBlank (c : Char) : Bool := c = ' ' || c = '\t'

def skipBlanks (text : List Char) : List Char := text.dropWhile isBlank

def isControl (c : Char) : Bool := (c.toNat < 32 && c ≠ '\t') || c.toNat = 127

def skipComment : List Char → List Char
  | '#' :: rest => rest.dropWhile fun c => !isControl c
  | text => text

/-- What follows a line break, if the text begins with one. -/
def afterBreak? : List Char → Option (List Char)
  | '\n' :: rest => some rest
  | '\r' :: '\n' :: rest => some rest
  | _ => none

def lineEnd (text : List Char) : Option (List Char) :=
  match skipComment (skipBlanks text) with
  | [] => some []
  | rest => afterBreak? rest

def hexValue? (c : Char) : Option Nat :=
  if c.isDigit then some (c.toNat - 48)
  else if 'a' ≤ c ∧ c ≤ 'f' then some (c.toNat - 87)
  else if 'A' ≤ c ∧ c ≤ 'F' then some (c.toNat - 55)
  else none

def codePoint? (digits : List Char) : Option Char := do
  let values ← digits.mapM hexValue?
  let code := values.foldl (fun n digit => 16 * n + digit) 0
  if code.isValidChar then some (Char.ofNat code) else none

def simpleEscape? : Char → Option Char
  | 'b' => some '\x08'
  | 't' => some '\t'
  | 'n' => some '\n'
  | 'f' => some '\x0c'
  | 'r' => some '\r'
  | '"' => some '"'
  | '\\' => some '\\'
  | _ => none

def prepend (c : Char) (result : Option (List Char × List Char)) : Option (List Char × List Char) :=
  result.map fun (text, rest) => (c :: text, rest)

def basicString : Reader (List Char)
  | '"' :: rest => some ([], rest)
  | '\\' :: 'u' :: a :: b :: c :: d :: rest =>
    (codePoint? [a, b, c, d]).bind fun char => prepend char (basicString rest)
  | '\\' :: 'U' :: a :: b :: c :: d :: e :: f :: g :: h :: rest =>
    (codePoint? [a, b, c, d, e, f, g, h]).bind fun char => prepend char (basicString rest)
  | '\\' :: c :: rest => (simpleEscape? c).bind fun char => prepend char (basicString rest)
  | c :: rest => if isControl c then none else prepend c (basicString rest)
  | [] => none

def literalString : Reader (List Char)
  | '\'' :: rest => some ([], rest)
  | c :: rest => if isControl c then none else prepend c (literalString rest)
  | [] => none

/-- The rest of a string in three double quotes; `trimming` follows a backslash at a line's end. -/
def longBasicString (trimming : Bool) : Reader (List Char)
  | '"' :: '"' :: '"' :: '"' :: '"' :: rest => some (['"', '"'], rest)
  | '"' :: '"' :: '"' :: '"' :: rest => some (['"'], rest)
  | '"' :: '"' :: '"' :: rest => some ([], rest)
  | '\\' :: 'u' :: a :: b :: c :: d :: rest =>
    (codePoint? [a, b, c, d]).bind fun char => prepend char (longBasicString false rest)
  | '\\' :: 'U' :: a :: b :: c :: d :: e :: f :: g :: h :: rest =>
    (codePoint? [a, b, c, d, e, f, g, h]).bind fun char =>
      prepend char (longBasicString false rest)
  | '\\' :: '\r' :: '\n' :: rest => longBasicString true rest
  | '\\' :: c :: rest =>
    if c = '\n' ∨ (isBlank c ∧ (afterBreak? (skipBlanks rest)).isSome) then
      longBasicString true rest
    else (simpleEscape? c).bind fun char => prepend char (longBasicString false rest)
  | '\r' :: '\n' :: rest =>
    if trimming then longBasicString true rest else prepend '\n' (longBasicString false rest)
  | c :: rest =>
    if trimming ∧ (isBlank c ∨ c = '\n') then longBasicString true rest
    else if isControl c ∧ c ≠ '\n' then none
    else prepend c (longBasicString false rest)
  | [] => none

def longLiteralString : Reader (List Char)
  | '\'' :: '\'' :: '\'' :: '\'' :: '\'' :: rest => some (['\'', '\''], rest)
  | '\'' :: '\'' :: '\'' :: '\'' :: rest => some (['\''], rest)
  | '\'' :: '\'' :: '\'' :: rest => some ([], rest)
  | '\r' :: '\n' :: rest => prepend '\n' (longLiteralString rest)
  | c :: rest => if isControl c ∧ c ≠ '\n' then none else prepend c (longLiteralString rest)
  | [] => none

/-- A line break right after the opening quotes does not count. -/
def skipFirstBreak (text : List Char) : List Char := (afterBreak? text).getD text

def quoted : Reader String := fun text =>
  let result :=
    match text with
    | '"' :: '"' :: '"' :: rest => longBasicString false (skipFirstBreak rest)
    | '\'' :: '\'' :: '\'' :: rest => longLiteralString (skipFirstBreak rest)
    | '"' :: rest => basicString rest
    | '\'' :: rest => literalString rest
    | _ => none
  result.map fun (value, rest) => (String.ofList value, rest)

def isBareKey (c : Char) : Bool := c.isAlphanum || c = '_' || c = '-'

def keyPart : Reader String := fun text =>
  match text with
  | '"' :: rest => (basicString rest).map fun (key, rest) => (String.ofList key, rest)
  | '\'' :: rest => (literalString rest).map fun (key, rest) => (String.ofList key, rest)
  | text =>
    let key := text.takeWhile isBareKey
    if key = [] then none else some (String.ofList key, text.dropWhile isBareKey)

/-- A dotted key of at most as many parts as `parts` says, with the blanks around it. -/
def dottedKey : (parts : Nat) → Reader (List String)
  | 0, _ => none
  | parts + 1, text => do
    let (key, rest) ← keyPart (skipBlanks text)
    match skipBlanks rest with
    | '.' :: rest =>
      let (keys, rest) ← dottedKey parts rest
      some (key :: keys, rest)
    | rest => some ([key], rest)

/-- How many parts a key may have, and how deep arrays and inline tables may stand in one another. -/
def levelLimit : Nat := 79

def key : Reader (List String) := dottedKey levelLimit

end MockCluster.Toml
