import MockCluster.Json.Record
import MockCluster.OrderedMap

/-!
Tasks, the references to them that dashboards file under nodes and services, and the timeline.

A task and a reference hold the same facts in different places: a reference keeps state, error and
time in a status block.  `Task.ref` and `Task.ofRef` lead from one to the other.
-/

namespace MockCluster

open Json (Codec Field Fields)

inductive TaskState where
  | running
  | pending
  | failed
  | shutdown
  | complete
  deriving DecidableEq, Repr

namespace TaskState

def all : List TaskState := [.running, .pending, .failed, .shutdown, .complete]

def name : TaskState → String
  | .running => "running"
  | .pending => "pending"
  | .failed => "failed"
  | .shutdown => "shutdown"
  | .complete => "complete"

def cycle (n : Nat) : TaskState :=
  match n % 5 with
  | 0 => .running
  | 1 => .pending
  | 2 => .failed
  | 3 => .shutdown
  | _ => .complete

def desired : TaskState → TaskState
  | .running => .running
  | _ => .shutdown

def codec : Codec TaskState := Codec.variant all name

end TaskState

structure TaskStatus where
  state : Option String := none
  error : Option String := none
  timestamp : Option String := none
  untyped : Members := []
  deriving DecidableEq, Repr, Inhabited

def TaskStatus.codec : Codec TaskStatus :=
  (Codec.openRecord "TaskStatus" <|
    .field (.optionalString "State") <|
    .field (.optionalString "Err") <|
    .field (.optionalString "Timestamp") .rest).imap
    (fun (state, error, timestamp, untyped) => ⟨state, error, timestamp, untyped⟩)
    (fun s => (s.state, s.error, s.timestamp, s.untyped))

structure Task where
  id : String := ""
  serviceId : Option String := none
  serviceName : Option String := none
  stack : Option String := none
  nodeId : Option String := none
  nodeName : Option String := none
  state : Option String := none
  error : Option String := none
  createdAt : Option String := none
  updatedAt : Option String := none
  desiredState : Option String := none
  timestamp : Option String := none
  slot : Option Nat := none
  status : Option TaskStatus := none
  untyped : Members := []
  deriving DecidableEq, Repr, Inhabited

def Task.codec : Codec Task :=
  (Codec.openRecord "Task" <|
    .field (.string "ID") <|
    .field (.optionalString "ServiceID") <|
    .field (.optionalString "ServiceName") <|
    .field (.optionalString "Stack") <|
    .field (.optionalString "NodeID") <|
    .field (.optionalString "NodeName") <|
    .field (.optionalString "State") <|
    .field (.optionalString "Err") <|
    .field (.optionalString "CreatedAt") <|
    .field (.optionalString "UpdatedAt") <|
    .field (.optionalString "DesiredState") <|
    .field (.optionalString "Timestamp") <|
    .field (.optional "Slot" Codec.word64) <|
    .field (.optional "Status" TaskStatus.codec) .rest).imap
    (fun (id, serviceId, serviceName, stack, nodeId, nodeName, state, error, createdAt, updatedAt,
        desiredState, timestamp, slot, status, untyped) =>
      ⟨id, serviceId, serviceName, stack, nodeId, nodeName, state, error, createdAt, updatedAt,
        desiredState, timestamp, slot, status, untyped⟩)
    (fun t => (t.id, t.serviceId, t.serviceName, t.stack, t.nodeId, t.nodeName, t.state, t.error,
      t.createdAt, t.updatedAt, t.desiredState, t.timestamp, t.slot, t.status, t.untyped))

structure TaskRef where
  id : String := ""
  status : Option TaskStatus := none
  nodeId : Option String := none
  nodeName : Option String := none
  serviceId : Option String := none
  serviceName : Option String := none
  stack : Option String := none
  createdAt : Option String := none
  updatedAt : Option String := none
  untyped : Members := []
  deriving DecidableEq, Repr, Inhabited

def TaskRef.codec : Codec TaskRef :=
  (Codec.openRecord "TaskRef" <|
    .field (.string "ID") <|
    .field (.optional "Status" TaskStatus.codec) <|
    .field (.optionalString "NodeID") <|
    .field (.optionalString "NodeName") <|
    .field (.optionalString "ServiceID") <|
    .field (.optionalString "ServiceName") <|
    .field (.optionalString "Stack") <|
    .field (.optionalString "CreatedAt") <|
    .field (.optionalString "UpdatedAt") .rest).imap
    (fun (id, status, nodeId, nodeName, serviceId, serviceName, stack, createdAt, updatedAt,
        untyped) =>
      ⟨id, status, nodeId, nodeName, serviceId, serviceName, stack, createdAt, updatedAt, untyped⟩)
    (fun r => (r.id, r.status, r.nodeId, r.nodeName, r.serviceId, r.serviceName, r.stack,
      r.createdAt, r.updatedAt, r.untyped))

namespace Task

def currentState (task : Task) : Option String :=
  task.state.filter (· ≠ "") <|> task.status.bind TaskStatus.state

def errorMessage (task : Task) : Option String :=
  task.error.filter (· ≠ "") <|> task.status.bind TaskStatus.error

/-- Whether a record has an ID and anything that only tasks have. -/
def looksLikeTask (task : Task) : Bool :=
  task.id ≠ "" && (task.serviceId.isSome || task.nodeId.isSome || task.slot.isSome)

def untypedString (task : Task) (key : String) : Option String :=
  ((task.untyped.get? key).bind Json.asString?).filter (· ≠ "")

def ref (task : Task) : TaskRef where
  id := task.id
  status := some
    { state := task.currentState
      error := some (task.errorMessage.getD "")
      timestamp := task.timestamp }
  nodeId := task.nodeId
  nodeName := task.nodeName
  serviceId := task.serviceId
  stack := task.stack
  createdAt := task.createdAt
  updatedAt := task.updatedAt

def unassignedRef (task : Task) : TaskRef :=
  { task.ref with serviceName := task.serviceName }

/-- The task of a reference; the service and the node it is filed under stand in for missing ones. -/
def ofRef (ref : TaskRef) (service? node? : Option String) : Task where
  id := ref.id
  serviceId := ref.serviceId <|> service?
  serviceName := ref.serviceName
  stack := ref.stack
  nodeId := ref.nodeId <|> node?
  nodeName := ref.nodeName
  state := ref.status.bind TaskStatus.state
  error := ref.status.bind TaskStatus.error
  createdAt := ref.createdAt
  updatedAt := ref.updatedAt
  timestamp := ref.status.bind TaskStatus.timestamp

end Task

/-- References by a foreign key: services under a node, nodes under a service. -/
abbrev Grouping := OrderedMap (List TaskRef)

namespace Grouping

def unassignedKey : String := "unassigned"

def codec : Codec Grouping :=
  Codec.keyed TaskRef.codec.list ∅ OrderedMap.insert OrderedMap.entries

def refs (grouping : Grouping) : List TaskRef := grouping.values.flatten

def append (grouping : Grouping) (key : String) (refs : List TaskRef) : Grouping :=
  grouping.update key fun bucket => bucket.getD [] ++ refs

def file (grouping : Grouping) (key : String) (ref : TaskRef) : Grouping :=
  grouping.append key [ref]

end Grouping

structure TimelineEntry where
  id : String := ""
  created : String := ""
  stopped : String := ""
  state : String := ""
  desiredState : String := ""
  slot : Nat := 0
  serviceName : String := ""
  serviceId : String := ""
  stack : String := ""
  deriving DecidableEq, Repr, Inhabited

def TimelineEntry.codec : Codec TimelineEntry :=
  (Codec.closedRecord "TimelineEntry" <|
    .field (.string "ID") <|
    .field (.string "CreatedTimestamp") <|
    .field (.string "StoppedTimestamp") <|
    .field (.string "State") <|
    .field (.string "DesiredState") <|
    .field (.withDefault "Slot" Codec.word64 0) <|
    .field (.string "ServiceName") <|
    .field (.string "ServiceID") <|
    .field (.string "Stack") .done).imap
    (fun (id, created, stopped, state, desiredState, slot, serviceName, serviceId, stack, _) =>
      ⟨id, created, stopped, state, desiredState, slot, serviceName, serviceId, stack⟩)
    (fun e => (e.id, e.created, e.stopped, e.state, e.desiredState, e.slot, e.serviceName,
      e.serviceId, e.stack, ()))

namespace Task

/-- When the task stopped: said outright, or the last change of a task whose state is not running. -/
def stoppedAt (task : Task) : String :=
  let said := task.untypedString "StoppedTimestamp" <|> task.untypedString "StoppedAt"
  let changed :=
    match task.state with
    | some state =>
      if state ≠ "" ∧ state ≠ "running" then task.updatedAt <|> task.timestamp else none
    | none => none
  (said <|> changed).getD ""

def createdAtOrSaid (task : Task) : String :=
  (task.untypedString "CreatedTimestamp" <|> task.untypedString "createdTimestamp" <|>
    task.createdAt <|> task.timestamp).getD ""

def timelineEntry (task : Task) : TimelineEntry :=
  let serviceId := task.serviceId.getD ""
  { id := task.id
    created := task.createdAtOrSaid
    stopped := task.stoppedAt
    state := task.currentState.getD ""
    desiredState := task.desiredState.getD ""
    slot := task.slot.getD 0
    serviceName := (task.serviceName.filter (· ≠ "")).getD serviceId
    serviceId := serviceId
    stack := task.stack.getD "" }

end Task

end MockCluster
