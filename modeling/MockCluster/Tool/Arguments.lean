/-!
The arguments of the command-line tools.

An option is written `--name`, or `-n` with a single letter.  Its value follows as the next argument,
behind an equals sign, or right behind the letter; letters without values may stand together.
-/

namespace MockCluster.Tool

structure OptionSpec where
  long : String
  short : Option Char := none
  hasValue : Bool := false
  deriving DecidableEq, Repr

inductive ArgumentFault where
  | unknownOption (text : String)
  | missingValue (option : String)
  | unexpectedValue (option : String)
  | repeated (option : String)
  | badNumber (text : String)
  | unexpectedArgument (text : String)
  | unknownCommand (text : String)
  | missingCommand
  deriving DecidableEq, Repr

def ArgumentFault.message : ArgumentFault → String
  | .unknownOption text => "unexpected argument '" ++ text ++ "' found"
  | .missingValue option => "a value is required for '--" ++ option ++ "' but none was supplied"
  | .unexpectedValue option => "unexpected value for '--" ++ option ++ "' found"
  | .repeated option => "the argument '--" ++ option ++ "' cannot be used multiple times"
  | .badNumber text => "invalid value '" ++ text ++ "' for '--services'"
  | .unexpectedArgument text => "unexpected argument '" ++ text ++ "' found"
  | .unknownCommand text => "unrecognized subcommand '" ++ text ++ "'"
  | .missingCommand => "a subcommand is required"

structure Arguments where
  options : List (String × String) := []
  others : List String := []
  deriving DecidableEq, Repr

namespace Arguments

def value? (arguments : Arguments) (long : String) : Option String :=
  arguments.options.lookup long

def has (arguments : Arguments) (long : String) : Bool :=
  (arguments.value? long).isSome

def add (arguments : Arguments) (long value : String) : Except ArgumentFault Arguments :=
  if arguments.has long then .error (.repeated long)
  else .ok { arguments with options := arguments.options ++ [(long, value)] }

/-- Reads the letters behind one dash; an option at their end may still need a value. -/
def addLetters (specs : List OptionSpec) (arguments : Arguments) :
    List Char → Except ArgumentFault (Arguments × Option String)
  | [] => .ok (arguments, none)
  | letter :: rest =>
    match specs.find? fun spec => spec.short = some letter with
    | none => .error (.unknownOption (String.ofList ['-', letter]))
    | some spec =>
      if spec.hasValue then
        match rest with
        | [] => .ok (arguments, some spec.long)
        | '=' :: value => do
          let arguments ← arguments.add spec.long (String.ofList value)
          return (arguments, none)
        | value => do
          let arguments ← arguments.add spec.long (String.ofList value)
          return (arguments, none)
      else do
        let arguments ← arguments.add spec.long ""
        addLetters specs arguments rest

def addLong (specs : List OptionSpec) (arguments : Arguments) (text : List Char) :
    Except ArgumentFault (Arguments × Option String) :=
  let long := String.ofList (text.takeWhile (· ≠ '='))
  match specs.find? fun spec => spec.long = long with
  | none => .error (.unknownOption ("--" ++ long))
  | some spec =>
    match text.dropWhile (· ≠ '='), spec.hasValue with
    | [], true => .ok (arguments, some long)
    | [], false => (arguments.add long "").map fun arguments => (arguments, none)
    | _ :: value, true =>
      (arguments.add long (String.ofList value)).map fun arguments => (arguments, none)
    | _ :: _, false => .error (.unexpectedValue long)

/-- Reads arguments one by one; `waiting` names an option whose value comes next. -/
def readFrom (specs : List OptionSpec) (arguments : Arguments) (waiting : Option String) :
    List String → Except ArgumentFault Arguments
  | [] =>
    match waiting with
    | some long => .error (.missingValue long)
    | none => .ok arguments
  | text :: rest =>
    match waiting with
    | some long =>
      if text.toList.head? = some '-' ∧ text ≠ "-" then .error (.missingValue long)
      else do
        let arguments ← arguments.add long text
        readFrom specs arguments none rest
    | none =>
      match text.toList with
      | ['-', '-'] => .ok { arguments with others := arguments.others ++ rest }
      | '-' :: '-' :: long => do
        let (arguments, waiting) ← addLong specs arguments long
        readFrom specs arguments waiting rest
      | '-' :: letter :: letters => do
        let (arguments, waiting) ← addLetters specs arguments (letter :: letters)
        readFrom specs arguments waiting rest
      | _ => readFrom specs { arguments with others := arguments.others ++ [text] } none rest

def read (specs : List OptionSpec) (texts : List String) : Except ArgumentFault Arguments :=
  readFrom specs {} none texts

end Arguments

end MockCluster.Tool
