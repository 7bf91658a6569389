import MockCluster.Files.Access
import MockCluster.Files.Path
import MockCluster.Settings.Source

/-!
Where settings are looked for: files in the working directory, the file in the user's configuration
directory, a file that is asked for, and environment variables, in this order.
-/

namespace MockCluster

structure Surroundings where
  workingDirectory : String
  configHome : Option String
  environment : List (String × String)

namespace Settings

inductive LoadFault where
  | missing (path : String)
  | unknownFormat (path : String)
  | notText (path : String)
  | malformed (path : String)
  /-- A key names a place before the beginning of a list. -/
  | noSuchPlace (key : String)
  | unusable (fault : Unusable)
  deriving DecidableEq, Repr

def LoadFault.message : LoadFault → String
  | .missing path => "configuration file \"" ++ path ++ "\" not found"
  | .unknownFormat path =>
    "configuration file \"" ++ path ++ "\" is not of a registered file format"
  | .notText path => "configuration file \"" ++ path ++ "\" is not UTF-8"
  | .malformed path => "malformed configuration file \"" ++ path ++ "\""
  | .noSuchPlace key => "there is no place " ++ key
  | .unusable fault => fault.message

/-- What follows the last dot of a name; a dot that the name begins with does not count. -/
def nameExtension (name : List Char) : List Char :=
  let afterDot := (name.reverse.takeWhile (· ≠ '.')).reverse
  if afterDot.length + 1 < name.length then afterDot else []

def isTomlPath (path : String) : Bool :=
  match FilePath.splitName? path.toList with
  | some (_, name) => nameExtension name = "toml".toList
  | none => false

variable {m : Type → Type} [Monad m] [FileAccess m]

/-- The text of a file; the name is also tried with an extension added. -/
def readFile (path : String) : m (Except LoadFault String) := do
  let decode (bytes : ByteArray) : Except LoadFault String :=
    match String.fromUTF8? bytes with
    | some text => .ok text
    | none => .error (.notText path)
  match ← FileAccess.readBytes path with
  | .ok bytes => return if isTomlPath path then decode bytes else .error (.unknownFormat path)
  | .error _ =>
    match FilePath.sibling? path "toml" with
    | none => return .error (.missing path)
    | some extended =>
      match ← FileAccess.readBytes extended with
      | .ok bytes => return decode bytes
      | .error _ => return .error (.missing path)

def readTable (path : String) (required : Bool) : m (Except LoadFault Toml.Members) := do
  match ← readFile (m := m) path with
  | .error fault => return if required then .error fault else .ok []
  | .ok text =>
    match Toml.read text with
    | some table => return .ok table
    | none => return .error (.malformed path)

def overlay (entries : Entries) (said : Entries) : Except LoadFault Entries :=
  said.foldlM (fun entries (key, value) =>
    match entries.assign key value with
    | some entries => .ok entries
    | none => .error (.noSuchPlace key)) entries

def readTables : (files : List (String × Bool)) → Entries → m (Except LoadFault Entries)
  | [], entries => return .ok entries
  | (path, required) :: rest, entries => do
    match ← readTable path required with
    | .error fault => return .error fault
    | .ok table =>
      match overlay entries (Entry.ofMembers table) with
      | .error fault => return .error fault
      | .ok entries => readTables rest entries

def homeFile (surroundings : Surroundings) : m (List String) := do
  match surroundings.configHome with
  | none => return []
  | some directory =>
    let path := directory ++ "/fixtures/fixtures.toml"
    return if ← FileAccess.fileExists path then [path] else []

def load (surroundings : Surroundings) (asked : Option String) :
    m (Except LoadFault Settings) := do
  let usual := ["fixtures.toml", ".fixtures.toml", "config/fixtures.toml"] ++
    (← homeFile (m := m) surroundings)
  match ← readTables (usual.map (·, false) ++ asked.toList.map (·, true)) [] with
  | .error fault => return .error fault
  | .ok entries =>
    let said := surroundings.environment.filterMap fun (name, value) =>
      (variableKey? name).map fun key => (key, ofVariable value)
    return do
      let entries ← overlay entries said
      (ofEntries entries).mapError .unusable

def documentFile (settings : Settings) (surroundings : Surroundings) : String :=
  FilePath.seenFrom surroundings.workingDirectory settings.documentPath

end Settings

end MockCluster
