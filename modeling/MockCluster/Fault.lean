import MockCluster.Pipeline.Plan
import MockCluster.Store
import MockCluster.WriteBack

/-!
Whatever may go wrong with a document: its text, an ID looked up in it, a plan for it, or its file.
-/

namespace MockCluster

inductive Fault where
  | parse (failure : ParseFailure)
  | notFound (failure : NotFound)
  | writeBack (failure : WriteBackFailure)
  | plan (fault : PlanFault)
  | file (fault : FileFault)
  deriving DecidableEq, Repr

namespace Fault

def message : Fault → String
  | .parse failure => failure.message
  | .notFound failure => failure.message
  | .writeBack failure => "Persistence failed: " ++ failure.message
  | .plan fault => "Invalid pipeline: " ++ fault.message
  | .file fault => "IO error: " ++ fault.message

/-- The message and then what is behind it, which is told for files only. -/
def messageWithCause : Fault → String
  | .file fault => (Fault.file fault).message ++ ": " ++ fault.message
  | fault => fault.message

end Fault

namespace Store

variable {m : Type → Type} [Monad m] [FileAccess m]

def load (path : String) : m (Except Fault Store) := do
  match ← FileAccess.readText path with
  | .error fault => return .error (.file fault)
  | .ok text => return (Store.parse path text).mapError .parse

/-- Writes the document to a path, without any of the care of a write-back. -/
def save (store : Store) (path : String) : m (Except Fault Unit) := do
  let result ← FileAccess.writeText path store.doc.text
  return result.mapError .file

def persist (settings : WriteBackSettings) (store : Store) (path : String) :
    m (Except Fault WriteBackReport) := do
  let result ← WriteBack.commit settings store.doc.text path
  return result.mapError .writeBack

def diff (store : Store) (path : String) : m (Except Fault String) := do
  let result ← WriteBack.diff path store.doc
  return result.mapError .file

end Store

end MockCluster
