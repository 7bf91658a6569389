import MockCluster.Findings
import MockCluster.FreshName
import MockCluster.Store

/-!
Repeated task IDs: the first task of an ID keeps it, the later ones get a suffix.
-/

namespace MockCluster

namespace Duplicates

def candidate (id : String) (n : Nat) : String :=
  id ++ "-dup" ++ toString n

/-- Renames the tasks whose IDs have been seen before; `counts` tells how often. -/
def resolve (counts : Std.HashMap String Nat) (taken : IdSet) :
    List Task → List Task × List Rename
  | [] => ([], [])
  | task :: rest =>
    if task.looksLikeTask then
      let earlier := counts.getD task.id 0
      let counts := counts.insert task.id (earlier + 1)
      if earlier = 0 then
        let (tasks, renames) := resolve counts taken rest
        (task :: tasks, renames)
      else
        let new := freshName taken (candidate task.id) earlier
        let (tasks, renames) := resolve counts (taken.insert new) rest
        ({ task with id := new } :: tasks, ⟨task.id, new⟩ :: renames)
    else
      let (tasks, renames) := resolve counts taken rest
      (task :: tasks, renames)

end Duplicates

namespace Store

def dedupe (store : Store) : Store × List Rename :=
  let (tasks, renames) := Duplicates.resolve ∅ (IdSet.ofList store.doc.taskIds) store.doc.tasks
  let resolved := store.modify fun doc => { doc with tasks := tasks }
  (if renames.isEmpty then resolved else resolved.reindex, renames)

end Store

def Finding.duplicateRenamed (rename : Rename) : Finding where
  subject := rename.new
  code := .duplicateTaskRenamed
  text := "Duplicate task ID '" ++ rename.old ++ "' renamed to '" ++ rename.new ++ "'"

end MockCluster
