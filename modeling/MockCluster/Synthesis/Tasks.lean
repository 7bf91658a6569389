import MockCluster.Calendar
import MockCluster.Store
import MockCluster.Synthesis.Naming
import MockCluster.Views.Filing

/-!
Tasks for synthetic services, spread over the nodes of the roster.

Service `i` gets `1 + i % 3` tasks on successive nodes, in rotating states and created a minute
apart.  A second pass puts one more task of each service on the first node.  Tasks that exist are
passed over.
-/

namespace MockCluster

namespace Synthetic

def failures : List String :=
  ["OOMKilled while starting container", "ImagePullBackOff: failed to fetch image",
    "Permission denied mounting volume", "Container exited with code 1", "Network attach failed"]

def extraSlot : Nat := 99

/-- Task `j` of service `i`, counted from zero. -/
def taskId (i j : Nat) : String := "task-" ++ serviceId i ++ "-" ++ toString (j + 1)

def extraTaskId (i : Nat) : String := "task-" ++ serviceId i ++ "-extra"

def taskNumbers (services : Nat) : List (Nat × Nat) :=
  (List.range' 1 services).flatMap fun i => (List.range (1 + i % 3)).map fun j => (i, j)

/-- Only failed tasks have an error. -/
def errorText (state : TaskState) (turn : Nat) (serviceName : String) : String :=
  match state with
  | .failed => failures.getD (turn % failures.length) "" ++ " for " ++ serviceName
  | _ => ""

end Synthetic

structure Owner where
  id : String
  name : String
  stack : String
  deriving DecidableEq, Repr

structure Placement where
  id : String
  name : String
  deriving DecidableEq, Repr

namespace Document

def owner (doc : Document) (i : Nat) : Owner :=
  let id := Synthetic.serviceId i
  match doc.services.find? fun service => service.id = id with
  | some service => ⟨id, service.name.getD "", service.stackName.getD ""⟩
  | none => ⟨id, "service-" ++ toString i, ""⟩

def placements (doc : Document) : List Placement :=
  (doc.roster.filter fun node => node.id ≠ "").map fun node => ⟨node.id, node.displayName⟩

def syntheticTask (doc : Document) (now : Instant) (i turn : Nat) (place : Option Placement) :
    Task :=
  let owner := doc.owner i
  let state := TaskState.cycle turn
  { serviceId := some owner.id
    serviceName := some owner.name
    stack := some owner.stack
    nodeId := place.map Placement.id
    nodeName := place.map Placement.name
    state := some state.name
    error := some (Synthetic.errorText state turn owner.name)
    desiredState := some state.desired.name
    timestamp := some (now.timestamp 0) }

def rotatedTask (doc : Document) (now : Instant) (number : Nat × Nat) : Task :=
  let (i, j) := number
  let places := doc.placements
  { doc.syntheticTask now i (i + j) places[(i + j) % places.length]? with
    id := Synthetic.taskId i j
    createdAt := some (now.timestamp j)
    updatedAt := some (now.timestamp 0)
    slot := some (j + 1) }

def extraTask (doc : Document) (now : Instant) (first : Placement) (i : Nat) : Task :=
  { doc.syntheticTask now i (i + 2) (some first) with
    id := Synthetic.extraTaskId i
    slot := some Synthetic.extraSlot }

end Document

namespace Store

def hasTask (store : Store) (id : String) : Bool :=
  store.contains .task id || store.doc.tasks.any fun task => task.id = id

def missingTasks (store : Store) (services : Nat) : List (Nat × Nat) :=
  (Synthetic.taskNumbers services).filter fun (i, j) => !store.hasTask (Synthetic.taskId i j)

/-- Inserts tasks one after another; the timeline and the index follow if there are any. -/
def insertTasks (store : Store) (tasks : List Task) : Store :=
  if tasks.isEmpty then store
  else
    (store.modify fun doc => (tasks.foldl Document.insertTask doc).regenerateTimeline).reindex

def synthesizeTasks (store : Store) (now : Instant) (services : Nat) : Store × Nat :=
  let tasks := (store.missingTasks services).map (store.doc.rotatedTask now)
  (store.insertTasks tasks, tasks.length)

/-- The first pass as far as the calendar goes: where it cannot tell when a task was created, the
pass stops with what has been inserted. -/
def synthesizeTasksWithin (store : Store) (now : Instant) (services : Nat) :
    Except Store (Store × Nat) :=
  let numbers := store.missingTasks services
  let reachable := numbers.takeWhile fun (_, j) => now.reaches j
  if reachable.length = numbers.length then .ok (store.synthesizeTasks now services)
  else
    .error (store.modify fun doc =>
      (reachable.map (doc.rotatedTask now)).foldl Document.insertTask doc)

def synthesizeExtraTasks (store : Store) (now : Instant) (services : Nat) : Store × Nat :=
  match store.doc.placements.head? with
  | none => (store, 0)
  | some first =>
    let numbers := (List.range' 1 services).filter fun i =>
      !store.hasTask (Synthetic.extraTaskId i)
    let tasks := numbers.map (store.doc.extraTask now first)
    (store.insertTasks tasks, tasks.length)

end Store

end MockCluster
