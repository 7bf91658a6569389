import MockCluster.Findings
import MockCluster.Store

/-!
References that lead nowhere, and IDs that are listed twice.
-/

namespace MockCluster

def Finding.duplicateNode (id : String) : Finding where
  subject := id
  code := .duplicateNodeId
  text := "Node ID '" ++ id ++ "' is listed more than once"

def Finding.duplicateService (id : String) : Finding where
  subject := id
  code := .duplicateServiceId
  text := "Service ID '" ++ id ++ "' is listed more than once"

namespace Store

def serviceRefFindings (store : Store) (task : Task) : Findings :=
  match task.serviceId.filter (· ≠ "") with
  | some service =>
    if store.contains .service service then []
    else [Finding.dangling task.id .danglingServiceRef service]
  | none => [{ subject := task.id, code := .danglingServiceRef, text := "Task has no ServiceID" }]

/-- A task may well have no node. -/
def nodeRefFindings (store : Store) (task : Task) : Findings :=
  match task.nodeId.filter (· ≠ "") with
  | some node =>
    if store.contains .node node then [] else [Finding.dangling task.id .danglingNodeRef node]
  | none => []

def danglingKeys (store : Store) (role : Role) (grouping : Option Grouping) : List String :=
  (grouping.getD ∅).keys.filter fun key =>
    key ≠ Grouping.unassignedKey && !store.contains role key

def referenceFindings (store : Store) : Findings :=
  (store.index.duplicates .node).map Finding.duplicateNode ++
    (store.index.duplicates .service).map Finding.duplicateService ++
    store.doc.tasks.flatMap (fun task =>
      store.serviceRefFindings task ++ store.nodeRefFindings task) ++
    store.doc.allNodes.flatMap (fun node =>
      (store.danglingKeys .service node.tasks).map
        (Finding.danglingKey node.id .danglingGroupingServiceKey)) ++
    store.doc.serviceGroupings.flatMap fun (id, grouping) =>
      (store.danglingKeys .node grouping).map (Finding.danglingKey id .danglingGroupingNodeKey)

end Store

end MockCluster
