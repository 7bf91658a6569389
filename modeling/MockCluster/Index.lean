import MockCluster.Document.Layout
import MockCluster.IdSet
import Std.Data.HashMap.Lemmas

/-!
Identities: the roles of entities, and an index from the IDs of each role to their records.

The index is a value of its own, so it can go stale: a lookup checks that the record it finds has
the ID it was asked for.
-/

namespace MockCluster

open Json (Codec)

inductive Role where
  | node
  | service
  | task
  | stack
  deriving DecidableEq, Repr

namespace Role

def all : List Role := [.node, .service, .task, .stack]

def name : Role → String
  | .node => "node"
  | .service => "service"
  | .task => "task"
  | .stack => "stack"

def codec : Codec Role := Codec.variant all name

end Role

inductive Entity where
  | node (record : Node)
  | service (record : Service)
  | task (record : Task)
  | stack (record : Stack)
  deriving DecidableEq, Repr

namespace Entity

/-- Stacks are identified by their names. -/
def id : Entity → String
  | .node n => n.id
  | .service s => s.id
  | .task t => t.id
  | .stack s => s.name

def role : Entity → Role
  | .node _ => .node
  | .service _ => .service
  | .task _ => .task
  | .stack _ => .stack

def toJson : Entity → Json
  | .node n => Node.codec.write n
  | .service s => Service.codec.write s
  | .task t => Task.codec.write t
  | .stack s => Stack.codec.write s

end Entity

namespace Document

def nodeIds (doc : Document) : List String := doc.allNodes.map Node.id

def serviceIds (doc : Document) : List String := doc.services.map Service.id

def taskIds (doc : Document) : List String := doc.tasks.map Task.id

def stackNames (doc : Document) : List String := doc.stackRecords.map Stack.name

def listedServiceIds (doc : Document) : List String :=
  doc.serviceIds ++ doc.summaries.map ServiceSummary.id ++ doc.logServices.map LogService.id ++
    doc.stackRecords.flatMap fun stack => stack.services.map StackService.id

/-- The records of a role, in the order in which the first one with an ID counts. -/
def entities (doc : Document) : Role → List Entity
  | .node => doc.allNodes.map .node
  | .service => doc.services.map .service
  | .task => doc.tasks.map .task
  | .stack => doc.stackRecords.map .stack

end Document

/-- A place for each ID that is not empty: the first one it is paired with. -/
def firstPlaces {α : Type} (pairs : List (String × α)) : Std.HashMap String α :=
  pairs.foldl (fun places pair =>
    if pair.1 = "" then places else places.insertIfNew pair.1 pair.2) ∅

structure Index where
  nodes : Std.HashMap String (NodeListing × Nat)
  services : Std.HashMap String Nat
  tasks : Std.HashMap String Nat
  stackPlaces : Std.HashMap String Nat
  knownNodes : IdSet
  knownServices : IdSet
  repeatedNodes : List String
  repeatedServices : List String
  repeatedTasks : List String
  repeatedStacks : List String

namespace Index

def nodePlaces (doc : Document) : List (String × NodeListing × Nat) :=
  NodeListing.all.flatMap fun listing =>
    (doc.listing listing).zipIdx.map fun (node, position) => (node.id, listing, position)

def of (doc : Document) : Index where
  nodes := firstPlaces (nodePlaces doc)
  services := firstPlaces doc.serviceIds.zipIdx
  tasks := firstPlaces doc.taskIds.zipIdx
  stackPlaces := firstPlaces doc.stackNames.zipIdx
  knownNodes := IdSet.ofList doc.nodeIds
  knownServices := IdSet.ofList doc.listedServiceIds
  repeatedNodes := repeatedIds (doc.nodes.map Node.id)
  repeatedServices := repeatedIds doc.serviceIds
  repeatedTasks := repeatedIds doc.taskIds
  repeatedStacks := repeatedIds doc.stackNames

def contains (index : Index) (role : Role) (id : String) : Bool :=
  match role with
  | .node => index.nodes.contains id
  | .service => index.services.contains id
  | .task => index.tasks.contains id
  | .stack => index.stackPlaces.contains id

def isKnown (index : Index) (role : Role) (id : String) : Bool :=
  match role with
  | .node => index.knownNodes.contains id
  | .service => index.knownServices.contains id
  | role => index.contains role id

/-- The IDs of all listings of a role in the order they are first seen; tasks and stacks have one
list only, and none here. -/
def knownIds (index : Index) : Role → List String
  | .node => index.knownNodes.toList
  | .service => index.knownServices.toList
  | _ => []

def duplicates (index : Index) : Role → List String
  | .node => index.repeatedNodes
  | .service => index.repeatedServices
  | .task => index.repeatedTasks
  | .stack => index.repeatedStacks

def size (index : Index) : Role → Nat
  | .node => index.nodes.size
  | .service => index.services.size
  | .task => index.tasks.size
  | .stack => index.stackPlaces.size

/-- The record at the indexed position, or the first one of the list if another one stands there. -/
def lookUp {α : Type} (places : Std.HashMap String Nat) (list : List α) (idOf : α → String)
    (id : String) : Option α :=
  (places[id]?.bind (list[·]?)).filter (fun item => idOf item = id) <|>
    list.find? fun item => idOf item = id

/-- The record of a role with an ID.  For nodes only the indexed position counts. -/
def resolve (index : Index) (doc : Document) (role : Role) (id : String) : Option Entity :=
  match role with
  | .node =>
    (index.nodes[id]?.bind fun (listing, position) =>
      (doc.listing listing)[position]?.filter fun node => node.id = id).map .node
  | .service => (lookUp index.services doc.services Service.id id).map .service
  | .task => (lookUp index.tasks doc.tasks Task.id id).map .task
  | .stack => (lookUp index.stackPlaces doc.stackRecords Stack.name id).map .stack

end Index

end MockCluster
