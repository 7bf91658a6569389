import MockCluster.Text.Printable

/-!
Quoted text for messages: double quotes around it, and an escape for each character that would not
be seen for what it is.
-/

namespace MockCluster.Text

def hexDigits (n : Nat) : List Char := Nat.toDigits 16 n

def codePointEscape (c : Char) : List Char :=
  '\\' :: 'u' :: '\x7b' :: (hexDigits c.toNat ++ ['\x7d'])

def quoteChar (escapesApostrophe : Bool) (c : Char) : List Char :=
  match c with
  | '\x00' => ['\\', '0']
  | '\t' => ['\\', 't']
  | '\n' => ['\\', 'n']
  | '\r' => ['\\', 'r']
  | '"' => ['\\', '"']
  | '\\' => ['\\', '\\']
  | '\'' => if escapesApostrophe then ['\\', '\''] else ['\'']
  | c => if isPrintable c && !isExtending c then [c] else codePointEscape c

def quoteWith (escapesApostrophe : Bool) (s : String) : String :=
  String.ofList ('"' :: (s.toList.flatMap (quoteChar escapesApostrophe) ++ ['"']))

def quote (s : String) : String := quoteWith false s

/-- A quoted path; apostrophes are escaped as well. -/
def quotePath (s : String) : String := quoteWith true s

end MockCluster.Text
