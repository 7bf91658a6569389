import MockCluster.Json.Print
import MockCluster.Json.Tree
import MockCluster.Text.Quoted

/-!
What a reader of typed data may find wrong, and how it is told.

The same problem is told in two ways: with its line and column for a text, and without a place for a
value.  A column counts bytes.
-/

namespace MockCluster.Json

inductive Found where
  | null
  | bool (value : Bool)
  | number (value : Number)
  | string (value : String)
  | array
  | object
  deriving DecidableEq, Repr

def Found.message : Found → String
  | .null => "null"
  | .bool value => s!"boolean `" ++ (if value then "true" else "false") ++ "`"
  | .number (.integer value) => "integer `" ++ toString value ++ "`"
  | .number (.float value) =>
    "floating point `" ++ String.ofList (floatLayout.render value) ++ "`"
  | .string value => "string " ++ Text.quote value
  | .array => "sequence"
  | .object => "map"

inductive Problem where
  | syntaxFault (fault : Fault)
  | mismatch (found : Found) (expected : String) (index : Nat)
  | outOfRange (found : Found) (expected : String) (index : Nat)
  | duplicateField (name : String) (index : Nat)
  | missingField (name : String) (index : Nat)
  | tooFew (count : Nat) (expected : String) (index : Nat)
  | tooMany (count : Nat) (index : Nat)
  | unknownVariant (name : String) (known : List String) (index : Nat)
  | noVariant (found : Found) (index : Nat)
  /-- Not exactly one member where the name of a variant was expected; `first` is what a reader of
  text meets first. -/
  | notOneMember (first : Problem)
  deriving DecidableEq, Repr

namespace Problem

def expectedOneOf (known : List String) : String :=
  "expected one of " ++ ", ".intercalate (known.map fun name => "`" ++ name ++ "`")

def message : Problem → String
  | .syntaxFault fault => fault.cause.message
  | .mismatch found expected _ => "invalid type: " ++ found.message ++ ", expected " ++ expected
  | .outOfRange found expected _ => "invalid value: " ++ found.message ++ ", expected " ++ expected
  | .duplicateField name _ => "duplicate field `" ++ name ++ "`"
  | .missingField name _ => "missing field `" ++ name ++ "`"
  | .tooFew count expected _ => "invalid length " ++ toString count ++ ", expected " ++ expected
  | .tooMany count _ =>
    "invalid length " ++ toString count ++ ", expected fewer elements in array"
  | .unknownVariant name known _ =>
    "unknown variant `" ++ name ++ "`, " ++ expectedOneOf known
  | .noVariant found _ => "invalid type: " ++ found.message ++ ", expected string or map"
  | .notOneMember _ => "invalid value: map, expected map with a single key"

def textMessage : Problem → String
  | .tooMany _ _ => Cause.message .textAfterEnd
  | .noVariant _ _ => Cause.message .valueDue
  | .notOneMember first => textMessage first
  | problem => problem.message

def index : Problem → Nat
  | .syntaxFault fault => fault.index
  | .mismatch _ _ index | .outOfRange _ _ index | .duplicateField _ index
  | .missingField _ index | .tooFew _ _ index | .tooMany _ index | .unknownVariant _ _ index
  | .noVariant _ index => index
  | .notOneMember first => first.index

end Problem

/-- Lines count from one, columns are bytes since the last line break. -/
structure Place where
  line : Nat
  column : Nat
  deriving DecidableEq, Repr

def Place.after (index : Nat) (text : List Char) : Place :=
  go ⟨1, 0⟩ index text
where
  go (place : Place) (left : Nat) : List Char → Place
    | [] => place
    | c :: rest =>
      if left < c.utf8Size then ⟨place.line, place.column + left⟩
      else if c = '\n' then go ⟨place.line + 1, 0⟩ (left - 1) rest
      else go ⟨place.line, place.column + c.utf8Size⟩ (left - c.utf8Size) rest

structure TextProblem where
  problem : Problem
  place : Place
  deriving DecidableEq, Repr

def TextProblem.of (problem : Problem) (text : String) : TextProblem :=
  ⟨problem, Place.after problem.index text.toList⟩

def TextProblem.message (p : TextProblem) : String :=
  p.problem.textMessage ++ " at line " ++ toString p.place.line ++ " column " ++
    toString p.place.column

end MockCluster.Json
