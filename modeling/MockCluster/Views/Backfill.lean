import MockCluster.Document.Layout
import MockCluster.Findings
import MockCluster.IdSet

/-!
Tasks that only a grouping knows, rebuilt from their references.

The first reference with an ID counts; what it leaves out is taken from the record that holds it and
from the key it is filed under.
-/

namespace MockCluster

/-- What the key of a bucket says of the tasks in it. -/
def Grouping.hint (key : String) : Option String :=
  if key = Grouping.unassignedKey then none else some key

namespace Document

/-- The tasks that all references describe, in the order in which the groupings are scanned. -/
def referencedTasks (doc : Document) : List Task :=
  let underNodes := doc.allNodes.flatMap fun node =>
    (node.tasks.getD ∅).entries.flatMap fun (service, refs) =>
      refs.map fun ref => Task.ofRef ref (Grouping.hint service) (some node.id)
  let unassigned := doc.horizontal.unassigned.map fun ref => Task.ofRef ref none none
  let underServices := doc.serviceGroupings.flatMap fun (service, grouping) =>
    (grouping.getD ∅).entries.flatMap fun (node, refs) =>
      refs.map fun ref => Task.ofRef ref (some service) (Grouping.hint node)
  underNodes ++ unassigned ++ underServices

def firstUnknown (known : IdSet) : List Task → List Task
  | [] => []
  | task :: rest =>
    if task.id = "" ∨ known.contains task.id then firstUnknown known rest
    else task :: firstUnknown (known.insert task.id) rest

def unlistedTasks (doc : Document) : List Task :=
  firstUnknown (IdSet.ofList (doc.tasks.map Task.id)) doc.referencedTasks

def backfill (doc : Document) : Document :=
  { doc with tasks := doc.tasks ++ doc.unlistedTasks }

end Document

def Finding.backfilled (task : Task) : Finding where
  subject := task.id
  code := .taskBackfilled
  text := "Task found only in a grouping was added to the task list"

end MockCluster
