import MockCluster.Tool.Run
import Std.Time.DateTime.Timestamp

/-!
The command line: the first argument names a tool, and the others are its own.
-/

namespace MockCluster.CommandLine

/-- System calls also report their numbers negated. -/
def faultOfNumber (number : UInt32) (details : String) : FileFault :=
  match number.toInt32.toInt.natAbs with
  | 2 => .notFound
  | 20 => .notDirectory
  | 21 => .isDirectory
  | 36 => .nameTooLong
  | number => .other (details ++ " (os error " ++ toString number ++ ")")

def faultOf : IO.Error → FileFault
  | .alreadyExists _ number details | .inappropriateType _ number details
  | .invalidArgument _ number details | .noSuchThing _ number details
  | .permissionDenied _ number details | .resourceExhausted _ number details
  | .interrupted _ number details | .noFileOrDirectory _ number details
  | .otherError number details | .resourceBusy number details
  | .resourceVanished number details | .unsupportedOperation number details
  | .hardwareFault number details | .unsatisfiedConstraints number details
  | .illegalOperation number details | .protocolError number details
  | .timeExpired number details => faultOfNumber number details
  | .unexpectedEof => .other "unexpected end of file"
  | .userError text => .other text

def attempt {α : Type} (action : IO α) : IO (Except FileFault α) := do
  let result ← action.toBaseIO
  return result.mapError faultOf

def fileExists (path : String) : IO Bool := do
  let place ← attempt (IO.FS.realPath path)
  return place.toBool

def isDirectory (path : String) : IO Bool := do
  match ← attempt (IO.FS.realPath path) with
  | .ok place => place.isDir
  | .error _ => return false

def copy (source target : String) : IO (Except FileFault Unit) := do
  if ← isDirectory source then return .error .notRegular
  attempt do
    let bytes ← IO.FS.readBinFile source
    IO.FS.writeBinFile target bytes

instance : FileAccess IO where
  fileExists := fileExists
  readBytes path := attempt (IO.FS.readBinFile path)
  writeBytes path bytes := attempt (IO.FS.writeBinFile path bytes)
  rename source target := attempt (IO.FS.rename source target)
  copy := copy
  remove path := attempt (IO.FS.removeFile path)

def splitVariable (text : String) : String × String :=
  let chars := text.toList
  (String.ofList (chars.takeWhile (· ≠ '=')), String.ofList ((chars.dropWhile (· ≠ '=')).drop 1))

def environment : IO (List (String × String)) := do
  match ← attempt (IO.FS.readBinFile "/proc/self/environ") with
  | .error _ => return []
  | .ok bytes =>
    let texts := ((String.fromUTF8? bytes).getD "").splitOn "\x00"
    return (texts.filter (· ≠ "")).map splitVariable

def configHome : IO (Option String) := do
  match (← IO.getEnv "XDG_CONFIG_HOME").filter FilePath.isAbsolute with
  | some path => return some path
  | none => return (← IO.getEnv "HOME").map fun home => FilePath.seenFrom home ".config"

def surroundings : IO Surroundings := do
  return ⟨(← IO.currentDir).toString, ← configHome, ← environment⟩

def now : IO Instant := do
  let time ← Std.Time.Timestamp.now
  let nanos := time.toNanosecondsSinceUnixEpoch.val
  return ⟨nanos / Instant.billion, (nanos % Instant.billion).toNat⟩

def usage : String :=
  "usage: (synthesize | repair | settings) [options]\n"

def run (tool : Tool) (args : List String) : IO UInt32 := do
  let output ← tool.run (m := IO) (← now) (← surroundings) args
  IO.print output.out
  IO.eprint output.errors
  return output.exitCode.toUInt32

end MockCluster.CommandLine

def main (args : List String) : IO UInt32 :=
  match args with
  | [] => do
    IO.eprint MockCluster.CommandLine.usage
    return 2
  | name :: args =>
    match MockCluster.Tool.ofName? name with
    | some tool => MockCluster.CommandLine.run tool args
    | none => do
      IO.eprint MockCluster.CommandLine.usage
      return 2
