import MockCluster.Checksum
import MockCluster.Document.Layout
import MockCluster.Files.Access
import MockCluster.Files.Path
import MockCluster.LineDiff
import MockCluster.Settings

/-!
Writing a document back: the destination is copied aside, the new text is written beside it and moved
over it, and what then stands there is read back, compared by checksum and parsed.  If that fails,
the copy is put back, or the destination is removed if there was none.
-/

namespace MockCluster

inductive WriteBackStep where
  | backup
  | writeTemp
  | rename
  | validate
  deriving DecidableEq, Repr

def WriteBackStep.name : WriteBackStep → String
  | .backup => "backup"
  | .writeTemp => "write-temp"
  | .rename => "rename"
  | .validate => "validate"

inductive VerifyFault where
  | unreadable (fault : FileFault)
  | changed
  | notDocument (problem : Json.TextProblem)
  deriving DecidableEq, Repr

def VerifyFault.message : VerifyFault → String
  | .unreadable fault => "read back failed: " ++ fault.message
  | .changed => "checksum mismatch after write"
  | .notDocument problem => "written file does not parse: " ++ problem.message

inductive WriteBackCause where
  | file (fault : FileFault)
  | verify (fault : VerifyFault)
  deriving DecidableEq, Repr

def WriteBackCause.message : WriteBackCause → String
  | .file fault => fault.message
  | .verify fault => fault.message

structure WriteBackFailure where
  step : WriteBackStep
  path : String
  cause : WriteBackCause
  /-- Whether the former destination has been put back. -/
  restored : Bool
  deriving DecidableEq, Repr

def WriteBackFailure.message (failure : WriteBackFailure) : String :=
  failure.step.name ++ " step failed for " ++ failure.path ++ ": " ++ failure.cause.message ++
    (if failure.restored then " (restored from backup)" else "")

structure WriteBackReport where
  path : String
  backup : Option String
  bytes : Nat
  checksum : Checksum
  deriving DecidableEq, Repr

def WriteBackReport.members (report : WriteBackReport) : Members :=
  [("path", .string report.path), ("backup", (report.backup.map Json.string).getD .null),
    ("bytes", .ofNat report.bytes), ("checksum", .string report.checksum.text)]

def WriteBackReport.toJson (report : WriteBackReport) : Json := .object report.members

namespace WriteBack

variable {m : Type → Type} [Monad m] [FileAccess m]

def verifyBytes (expected : Checksum) (bytes : ByteArray) : Except VerifyFault Unit :=
  if expected.verify bytes then
    match String.fromUTF8? bytes with
    | none => .error .changed
    | some text =>
      match Document.parse text with
      | .ok _ => .ok ()
      | .error problem => .error (.notDocument problem)
  else .error .changed

def verify (destination : String) (expected : Checksum) : m (Except VerifyFault Unit) := do
  match ← FileAccess.readBytes destination with
  | .error fault => return .error (.unreadable fault)
  | .ok bytes => return verifyBytes expected bytes

def backUp (suffix destination : String) : m (Except WriteBackFailure (Option String)) := do
  if ← FileAccess.fileExists destination then
    let path := FilePath.sibling destination suffix
    match ← FileAccess.copy destination path with
    | .ok () => return .ok (some path)
    | .error fault => return .error ⟨.backup, path, .file fault, false⟩
  else return .ok none

/-- Puts the copy back, or removes the destination if there is none; tells whether the copy is
back. -/
def rollBack (destination : String) : Option String → m Bool
  | some backup => do
    match ← FileAccess.copy backup destination with
    | .ok () => return true
    | .error _ => return false
  | none => do
    let _ ← FileAccess.remove destination
    return false

/-- Writes beside the destination and moves the result over it.  What could not be moved is
removed. -/
def replace (suffix content destination : String) : m (Except WriteBackFailure Unit) := do
  let temp := FilePath.sibling destination suffix
  match ← FileAccess.writeText temp content with
  | .error fault =>
    let _ ← FileAccess.remove temp
    return .error ⟨.writeTemp, temp, .file fault, false⟩
  | .ok () =>
    match ← FileAccess.rename temp destination with
    | .error fault =>
      let _ ← FileAccess.remove temp
      return .error ⟨.rename, destination, .file fault, false⟩
    | .ok () => return .ok ()

def commit (settings : WriteBackSettings) (content destination : String) :
    m (Except WriteBackFailure WriteBackReport) := do
  match ← backUp settings.backupSuffix destination with
  | .error failure => return .error failure
  | .ok backup =>
    match ← replace settings.tempSuffix content destination with
    | .error failure => return .error failure
    | .ok () =>
      let checksum := Checksum.ofText content
      match ← verify destination checksum with
      | .ok () => return .ok ⟨destination, backup, content.utf8ByteSize, checksum⟩
      | .error fault =>
        let restored ← rollBack destination backup
        return .error ⟨.validate, destination, .verify fault, restored⟩

def diff (path : String) (doc : Document) : m (Except FileFault String) := do
  let compare (current : String) : Except FileFault String :=
    .ok (LineDiff.unified path (path ++ " (new)") current doc.text)
  match ← FileAccess.readText path with
  | .ok current => return compare current
  | .error .notFound => return compare ""
  | .error fault => return .error fault

end WriteBack

end MockCluster
