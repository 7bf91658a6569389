import MockCluster.Json.Value
import MockCluster.Text.Hex

/-!
The text of a value: compact, without any blank, or indented by two spaces.
-/

namespace MockCluster.Json

/-- Floats are positional from `0.00001` up to below `10 ^ 16`, and keep one decimal there. -/
def floatLayout : Decimal.Layout where
  isPositional power := -5 ≤ power ∧ power ≤ 15
  keepsPoint := true

def Number.print : Number → List Char
  | .integer value => (toString value).toList
  | .float value => floatLayout.render value

def escapeChar (c : Char) : List Char :=
  match c with
  | '"' => ['\\', '"']
  | '\\' => ['\\', '\\']
  | '\x08' => ['\\', 'b']
  | '\x0c' => ['\\', 'f']
  | '\n' => ['\\', 'n']
  | '\r' => ['\\', 'r']
  | '\t' => ['\\', 't']
  | c =>
    if c.toNat < 32 then
      ['\\', 'u', '0', '0', Text.hexDigit (c.toNat / 16), Text.hexDigit (c.toNat % 16)]
    else
      [c]

def printString (s : String) : List Char :=
  '"' :: (s.toList.flatMap escapeChar ++ ['"'])

mutual

def print : Json → List Char
  | .null => "null".toList
  | .bool true => "true".toList
  | .bool false => "false".toList
  | .number value => value.print
  | .string value => printString value
  | .array items => '[' :: (printItems items ++ [']'])
  | .object members => '\x7b' :: (printMembers members ++ ['\x7d'])

def printItems : List Json → List Char
  | [] => []
  | [item] => print item
  | item :: next :: rest => print item ++ ',' :: printItems (next :: rest)

def printMembers : List (String × Json) → List Char
  | [] => []
  | [(key, value)] => printString key ++ ':' :: print value
  | (key, value) :: next :: rest =>
    printString key ++ ':' :: (print value ++ ',' :: printMembers (next :: rest))

end

def compact (value : Json) : String :=
  String.ofList (print value)

def newline (depth : Nat) : List Char :=
  '\n' :: List.replicate (2 * depth) ' '

mutual

/-- The indented text of a value that stands inside `depth` arrays and objects. -/
def printIndented (depth : Nat) : Json → List Char
  | .array (item :: rest) =>
    '[' :: (newline (depth + 1) ++ printIndentedItems (depth + 1) (item :: rest)
      ++ newline depth ++ [']'])
  | .object (member :: rest) =>
    '\x7b' :: (newline (depth + 1) ++ printIndentedMembers (depth + 1) (member :: rest)
      ++ newline depth ++ ['\x7d'])
  | value => print value

def printIndentedItems (depth : Nat) : List Json → List Char
  | [] => []
  | [item] => printIndented depth item
  | item :: next :: rest =>
    printIndented depth item ++ ',' :: (newline depth ++ printIndentedItems depth (next :: rest))

def printIndentedMembers (depth : Nat) : List (String × Json) → List Char
  | [] => []
  | [(key, value)] => printString key ++ ':' :: ' ' :: printIndented depth value
  | (key, value) :: next :: rest =>
    printString key ++ ':' :: ' ' :: (printIndented depth value ++
      ',' :: (newline depth ++ printIndentedMembers depth (next :: rest)))

end

def indented (value : Json) : String :=
  String.ofList (printIndented 0 value)

end MockCluster.Json
