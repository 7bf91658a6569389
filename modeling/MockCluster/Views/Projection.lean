import MockCluster.Document.Task

/-!
What the flat task list says of every derived view: the groupings of nodes and services, the
references without a node, and the timeline.

Tasks without a service appear in the timeline only.
-/

namespace MockCluster

namespace Task

def nodeKey (task : Task) : String := task.nodeId.getD Grouping.unassignedKey

def nodePlace (task : Task) : Option (String × String) :=
  match task.serviceId, task.nodeId with
  | some service, some node => some (node, service)
  | _, _ => none

/-- The service of a task and its node, or the key of tasks without a node. -/
def servicePlace (task : Task) : Option (String × String) :=
  task.serviceId.map fun service => (service, task.nodeKey)

def unassignedRef? (task : Task) : Option TaskRef :=
  match task.serviceId, task.nodeId with
  | some _, none => some task.unassignedRef
  | _, _ => none

end Task

abbrev Groupings := OrderedMap Grouping

namespace Groupings

def file (groupings : Groupings) (owner key : String) (ref : TaskRef) : Groupings :=
  groupings.update owner fun grouping => (grouping.getD ∅).file key ref

/-- Files each task at its place, in the order of the tasks. -/
def project (place : Task → Option (String × String)) (tasks : List Task) : Groupings :=
  tasks.foldl (fun groupings task =>
    match place task with
    | some (owner, key) => groupings.file owner key task.ref
    | none => groupings) ∅

def of (groupings : Groupings) (owner : String) : Grouping :=
  (groupings.find? owner).getD ∅

def toJson (groupings : Groupings) : Json :=
  .object (groupings.entries.map fun (owner, grouping) => (owner, Grouping.codec.write grouping))

end Groupings

/-- By node, then by service. -/
def projectNodes (tasks : List Task) : Groupings := Groupings.project Task.nodePlace tasks

/-- By service, then by node. -/
def projectServices (tasks : List Task) : Groupings := Groupings.project Task.servicePlace tasks

def projectUnassigned (tasks : List Task) : List TaskRef := tasks.filterMap Task.unassignedRef?

def projectTimeline (tasks : List Task) : List TimelineEntry := tasks.map Task.timelineEntry

end MockCluster
