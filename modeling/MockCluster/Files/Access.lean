/-!
What a program may do with files, and why it may fail.
-/

namespace MockCluster

inductive FileFault where
  | notFound
  | notDirectory
  | isDirectory
  | nameTooLong
  /-- Only regular files are copied. -/
  | notRegular
  | notText
  | nulInPath
  | other (text : String)
  deriving DecidableEq, Repr

def FileFault.message : FileFault → String
  | .notFound => "No such file or directory (os error 2)"
  | .notDirectory => "Not a directory (os error 20)"
  | .isDirectory => "Is a directory (os error 21)"
  | .nameTooLong => "File name too long (os error 36)"
  | .notRegular =>
    "the source path is neither a regular file nor a symlink to a regular file"
  | .notText => "stream did not contain valid UTF-8"
  | .nulInPath => "file name contained an unexpected NUL byte"
  | .other text => text

class FileAccess (m : Type → Type) where
  fileExists : String → m Bool
  readBytes : String → m (Except FileFault ByteArray)
  writeBytes : String → ByteArray → m (Except FileFault Unit)
  rename : (source target : String) → m (Except FileFault Unit)
  copy : (source target : String) → m (Except FileFault Unit)
  remove : String → m (Except FileFault Unit)

namespace FileAccess

variable {m : Type → Type} [Monad m] [FileAccess m]

def readText (path : String) : m (Except FileFault String) := do
  match ← readBytes path with
  | .error fault => return .error fault
  | .ok bytes =>
    match String.fromUTF8? bytes with
    | some text => return .ok text
    | none => return .error .notText

def writeText (path text : String) : m (Except FileFault Unit) :=
  writeBytes path text.toUTF8

end FileAccess

end MockCluster
