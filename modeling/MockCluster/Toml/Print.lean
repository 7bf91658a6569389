/-!
Strings of TOML files as they are written: in the first form that shows them as they are, and with
escapes if there is none.
-/

namespace MockCluster.Toml

/-- What stands around a string: double quotes, or single quotes that let no escape in; three of
them if the string is long. -/
inductive StringForm where
  | basic
  | literal
  | longBasic
  | longLiteral
  deriving DecidableEq, Repr

namespace StringForm

def isLong : StringForm → Bool
  | .basic | .literal => false
  | .longBasic | .longLiteral => true

def hasEscapes : StringForm → Bool
  | .basic | .longBasic => true
  | .literal | .longLiteral => false

def quote (form : StringForm) : Char := if form.hasEscapes then '"' else '\''

def delimiter (form : StringForm) : List Char :=
  List.replicate (if form.isLong then 3 else 1) form.quote

def quotesAllowed (form : StringForm) : Nat := if form.isLong then 2 else 0

end StringForm

def mustEscape (c : Char) : Bool :=
  (c.toNat < 32 && c ≠ '\t' && c ≠ '\n') || c.toNat = 127

def longestRun (c : Char) (text : List Char) : Nat :=
  go 0 0 text
where
  go (longest current : Nat) : List Char → Nat
    | [] => max longest current
    | d :: rest =>
      if d = c then go longest (current + 1) rest else go (max longest current) 0 rest

def StringForm.shows (form : StringForm) (text : List Char) : Bool :=
  !text.any mustEscape && longestRun form.quote text ≤ form.quotesAllowed &&
    !(form.hasEscapes && text.contains '\\') && !(!form.isLong && text.contains '\n')

def StringForm.of (text : List Char) : StringForm :=
  ([.basic, .literal, .longBasic, .longLiteral].find? fun form => form.shows text).getD
    (if '\n' ∈ text then .longBasic else .basic)

def upperHexDigit (n : Nat) : Char :=
  if n < 10 then Char.ofNat (48 + n) else Char.ofNat (55 + n)

def escapeChar (long : Bool) (c : Char) : List Char :=
  match c with
  | '\x08' => ['\\', 'b']
  | '\t' => ['\\', 't']
  | '\n' => if long then ['\n'] else ['\\', 'n']
  | '\x0c' => ['\\', 'f']
  | '\r' => ['\\', 'r']
  | '\\' => ['\\', '\\']
  | c =>
    if mustEscape c then
      ['\\', 'u', '0', '0', upperHexDigit (c.toNat / 16), upperHexDigit (c.toNat % 16)]
    else [c]

/-- A string between double quotes, after `run` quotes in a row that are not escaped.  Quotes are
escaped where too many come together. -/
def escaped (form : StringForm) (run : Nat) : List Char → List Char
  | [] => []
  | '"' :: rest =>
    if run < form.quotesAllowed then '"' :: escaped form (run + 1) rest
    else '\\' :: '"' :: escaped form 0 rest
  | c :: rest => escapeChar form.isLong c ++ escaped form 0 rest

def printString (value : String) : String :=
  let text := value.toList
  let form := StringForm.of text
  let opening := if form.isLong ∧ '\n' ∈ text then ['\n'] else []
  let body := if form.hasEscapes then escaped form 0 text else text
  String.ofList (form.delimiter ++ opening ++ body ++ form.delimiter)

def printBool (value : Bool) : String := if value then "true" else "false"

end MockCluster.Toml
