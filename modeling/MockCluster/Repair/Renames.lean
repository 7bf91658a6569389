import MockCluster.Document.Walk
import MockCluster.FreshName
import MockCluster.Store

/-!
Node IDs that are also service IDs, and their replacement throughout a document.

A replacement is free among node IDs, service IDs and the keys of node groupings.  Untyped data is
searched for node IDs by the names of its members.
-/

namespace MockCluster

open Json (Codec)

inductive UpdateKind where
  | nodeId
  | horizontalNode
  | verticalNode
  | taskNodeId
  | groupingNodeId
  | groupingKey
  | untypedNodeId
  deriving DecidableEq, Repr

namespace UpdateKind

def all : List UpdateKind :=
  [.nodeId, .horizontalNode, .verticalNode, .taskNodeId, .groupingNodeId, .groupingKey,
    .untypedNodeId]

def name : UpdateKind → String
  | .nodeId => "node-id"
  | .horizontalNode => "dashboardh.node"
  | .verticalNode => "dashboardv.node"
  | .taskNodeId => "tasks.nodeid"
  | .groupingNodeId => "grouping.nodeid"
  | .groupingKey => "grouping.key"
  | .untypedNodeId => "other.nodeid.refs"

def ofSite : NodeIdSite → UpdateKind
  | .nodeRecord .primary => .nodeId
  | .nodeRecord .horizontal => .horizontalNode
  | .nodeRecord .vertical => .verticalNode
  | .taskNodeId => .taskNodeId
  | .groupingEntry | .unassignedEntry => .groupingNodeId
  | .serviceGroupingKey => .groupingKey

end UpdateKind

abbrev Hit := String × UpdateKind

namespace Renames

def find? (renames : List Rename) (id : String) : Option String :=
  (renames.find? fun rename => rename.old = id).map Rename.new

def candidate (id : String) : Nat → String
  | 0 => "node-" ++ id
  | n + 1 => "node-" ++ id ++ "-" ++ toString (n + 1)

/-- Gives each ID that names a service a name of its own. -/
def plan (services taken : IdSet) : (nodeIds : List String) → List Rename
  | [] => []
  | id :: rest =>
    if services.contains id then
      let new := freshName taken (candidate id) 0
      ⟨id, new⟩ :: plan services (taken.insert new) rest
    else plan services taken rest

end Renames

namespace Store

/-- Everything that names a service: the IDs of its listings and the keys of node groupings. -/
def serviceNames (store : Store) : IdSet :=
  let keys := store.doc.allNodes.flatMap fun node => (node.tasks.getD ∅).keys
  (keys.filter (· ≠ Grouping.unassignedKey)).foldl IdSet.insert store.index.knownServices

def plannedRenames (store : Store) : List Rename :=
  let nodeIds := store.index.knownIds .node
  Renames.plan store.serviceNames (nodeIds.foldl IdSet.insert store.serviceNames) nodeIds

end Store

namespace Json

variable {m : Type → Type} [Monad m]

mutual

/-- Visits the node IDs of untyped data: strings under the name `NodeID` anywhere, and strings under
the name `ID` in objects that are items of an array under the name `Nodes`. -/
def visitNodeIds (visit : String → m String) (inNodes : Bool) : Json → m Json
  | .object members => do
    let members ← visitMembers visit false members
    return .object members
  | .array items => do
    let items ← visitItems visit inNodes items
    return .array items
  | value => pure value

def visitItems (visit : String → m String) (inNodes : Bool) : List Json → m (List Json)
  | [] => pure []
  | .object members :: rest => do
    let members ← visitMembers visit inNodes members
    let rest ← visitItems visit inNodes rest
    return .object members :: rest
  | item :: rest => do
    let item ← visitNodeIds visit false item
    let rest ← visitItems visit inNodes rest
    return item :: rest

def visitMembers (visit : String → m String) (isNode : Bool) :
    List (String × Json) → m (List (String × Json))
  | [] => pure []
  | (key, .string value) :: rest => do
    let value ← if key = "NodeID" ∨ (isNode ∧ key = "ID") then visit value else pure value
    let rest ← visitMembers visit isNode rest
    return (key, .string value) :: rest
  | (key, value) :: rest => do
    let value ← visitNodeIds visit (key = "Nodes") value
    let rest ← visitMembers visit isNode rest
    return (key, value) :: rest

end

end Json

namespace Renames

def replace (renames : List Rename) (kind : UpdateKind) (id : String) :
    StateM (List Hit) String := do
  match find? renames id with
  | some new =>
    modify ((id, kind) :: ·)
    return new
  | none => return id

def visitor (renames : List Rename) (untyped : Bool) : Visitor (StateM (List Hit)) where
  nodeId site id := replace renames (UpdateKind.ofSite site) id
  task := pure
  untyped members :=
    if untyped then Json.visitMembers (replace renames .untypedNodeId) false members
    else pure members

end Renames

structure Update where
  kind : UpdateKind
  rename : Rename
  count : Nat
  deriving DecidableEq, Repr

namespace Renames

def updates (renames : List Rename) (hits : List Hit) : List Update :=
  renames.flatMap fun rename =>
    (UpdateKind.all.map fun kind => ⟨kind, rename, hits.count (rename.old, kind)⟩).filter
      fun update => update.count ≠ 0

def total (hits : List Hit) (id : String) : Nat :=
  hits.countP fun hit => hit.1 = id

def apply (renames : List Rename) (untyped : Bool) (doc : Document) : Document × List Hit :=
  (doc.walk (visitor renames untyped)).run []

end Renames

end MockCluster
