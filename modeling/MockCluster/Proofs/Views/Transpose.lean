import MockCluster.Proofs.Document.Rekey
import MockCluster.Proofs.Lists

/-!
The projections by node and by service are transposes of each other: each task that has a service is
filed once in both, under the same node and the same service.

A task without a node is in a list of its own beside the projection by node, and under a reserved
key in the projection by service.  A node may have that key as its ID, so a bucket of the reserved
key holds such tasks and those of this node.
-/

namespace MockCluster

open Grouping (unassignedKey)

/-- References without a node carry the name of their service, others do not. -/
def TaskRef.unnamed (ref : TaskRef) : TaskRef := { ref with serviceName := none }

namespace Task

@[simp] theorem unnamed_unassignedRef (task : Task) : task.unassignedRef.unnamed = task.ref := rfl

@[simp] theorem unassignedRef_serviceId (task : Task) :
    task.unassignedRef.serviceId = task.serviceId := rfl

/-- The service of a task, its node if it has one, and the reference to it. -/
def filing? (task : Task) : Option (String × Option String × TaskRef) :=
  task.serviceId.map fun service => (service, task.nodeId, task.ref)

end Task

namespace Groupings

/-- The references of all groupings, each with its owner and the key it is filed under. -/
def filings (groupings : Groupings) : List (String × String × TaskRef) :=
  groupings.entries.flatMap fun entry => (Grouping.filings entry.2).map (Prod.mk entry.1)

theorem filings_file_perm (groupings : Groupings) (owner key : String) (ref : TaskRef) :
    (groupings.file owner key ref).filings.Perm (groupings.filings ++ [(owner, key, ref)]) := by
  apply OrderedMap.flatMap_update_perm
  · exact (Grouping.filings_append_perm ∅ key [ref]).map _
  · intro grouping
    rw [← List.map_singleton (f := Prod.mk owner), ← List.map_append]
    exact (grouping.filings_append_perm key [ref]).map _

/-- Each task with a place is filed there, and nothing else is. -/
theorem filings_project_perm (place : Task → Option (String × String)) (tasks : List Task) :
    (project place tasks).filings.Perm
      (tasks.filterMap fun task => (place task).map fun (owner, key) =>
        (owner, key, task.ref)) := by
  induction tasks using List.reverseRecOn with
  | nil => exact List.Perm.refl _
  | append_singleton tasks task ih =>
      rw [List.filterMap_append]
      cases h : place task with
      | none => simpa [project_concat_of_none tasks h, h] using ih
      | some pair =>
          obtain ⟨owner, key⟩ := pair
          rw [project_concat_of_some tasks h]
          refine (filings_file_perm _ owner key task.ref).trans ?_
          simpa [h] using ih.append_right [(owner, key, task.ref)]

end Groupings

theorem bucket_nodePlace_eq {node : String} (h : node ≠ unassignedKey) (tasks : List Task)
    (service : String) :
    Groupings.bucket Task.nodePlace tasks node service =
      Groupings.bucket Task.servicePlace tasks service node := by
  unfold Groupings.bucket
  congr 1
  apply List.filter_congr
  intro task _
  rw [decide_eq_decide, nodePlace_eq_some_iff, servicePlace_eq_some_iff, and_comm, Task.nodeKey]
  cases task.nodeId with
  | none => simp [Ne.symm h]
  | some other => simp

theorem projectUnassigned_eq (tasks : List Task) :
    projectUnassigned tasks =
      (tasks.filter fun task => task.serviceId.isSome && task.nodeId = none).map
        Task.unassignedRef := by
  induction tasks with
  | nil => rfl
  | cons task rest ih =>
      rw [projectUnassigned, List.filterMap_cons, ← projectUnassigned, ih, List.filter_cons]
      cases hservice : task.serviceId <;> cases hnode : task.nodeId <;>
        simp [Task.unassignedRef?, hservice, hnode]

theorem mem_bucket_servicePlace {tasks : List Task} {service key : String} {ref : TaskRef} :
    ref ∈ Groupings.bucket Task.servicePlace tasks service key ↔
      ∃ task ∈ tasks, task.serviceId = some service ∧ task.nodeKey = key ∧ task.ref = ref := by
  simp only [Groupings.bucket, List.mem_map, List.mem_filter, decide_eq_true_iff,
    servicePlace_eq_some_iff, and_assoc]

/-- Of the references under the reserved key, those without a node are the ones in the list. -/
theorem filter_bucket_unassignedKey (tasks : List Task) (service : String) :
    (Groupings.bucket Task.servicePlace tasks service unassignedKey).filter (·.nodeId = none) =
      ((projectUnassigned tasks).filter (·.serviceId = some service)).map TaskRef.unnamed := by
  rw [Groupings.bucket, projectUnassigned_eq, List.filter_map, List.filter_filter,
    List.filter_map, List.filter_filter, List.map_map]
  apply congrArg
  apply List.filter_congr
  intro task _
  rw [Bool.eq_iff_iff]
  simp only [Function.comp_apply, Bool.and_eq_true, decide_eq_true_eq, servicePlace_eq_some_iff]
  simp only [Task.ref, Task.unassignedRef, Task.nodeKey]
  constructor
  · rintro ⟨hnode, hservice, _⟩
    exact ⟨hservice, by rw [hservice, Option.isSome_some], hnode⟩
  · rintro ⟨hservice, _, hnode⟩
    exact ⟨hnode, hservice, by rw [hnode, Option.getD_none]⟩

/-- Those with a node are the ones of the node that has the reserved key as its ID. -/
theorem filter_bucket_of_node (tasks : List Task) (service : String) :
    (Groupings.bucket Task.servicePlace tasks service unassignedKey).filter (·.nodeId ≠ none) =
      Groupings.bucket Task.nodePlace tasks unassignedKey service := by
  rw [Groupings.bucket, Groupings.bucket, List.filter_map, List.filter_filter]
  apply congrArg
  apply List.filter_congr
  intro task _
  rw [Bool.eq_iff_iff]
  simp only [Function.comp_apply, Bool.and_eq_true, decide_eq_true_eq, servicePlace_eq_some_iff,
    nodePlace_eq_some_iff]
  simp only [Task.ref, Task.nodeKey]
  cases task.nodeId with
  | none => simp
  | some node => simp [and_comm]

theorem bucket_unassignedKey_eq_iff (tasks : List Task) (service : String) :
    Groupings.bucket Task.servicePlace tasks service unassignedKey =
        ((projectUnassigned tasks).filter (·.serviceId = some service)).map TaskRef.unnamed ↔
      ∀ task ∈ tasks, task.serviceId = some service → task.nodeId ≠ some unassignedKey := by
  rw [← filter_bucket_unassignedKey, eq_comm, List.filter_eq_self]
  constructor
  · intro hnone task hmem hservice hnode
    have hkey : task.nodeKey = unassignedKey := by rw [Task.nodeKey, hnode, Option.getD_some]
    have href := hnone task.ref (mem_bucket_servicePlace.2 ⟨task, hmem, hservice, hkey, rfl⟩)
    cases hnode.symm.trans (of_decide_eq_true href)
  · intro hunused ref hmem
    obtain ⟨task, htask, hservice, hkey, rfl⟩ := mem_bucket_servicePlace.1 hmem
    apply decide_eq_true
    cases hnode : task.nodeId with
    | none => exact hnode
    | some node =>
        rw [Task.nodeKey, hnode, Option.getD_some] at hkey
        exact absurd (hkey ▸ hnode) (hunused task htask hservice)

/-- A projection has a bucket exactly where there is something to file. -/
theorem getD_find?_of_project (place : Task → Option (String × String)) (tasks : List Task)
    (owner key : String) :
    (((Groupings.project place tasks).of owner).find? key).getD [] =
      Groupings.bucket place tasks owner key := by
  rw [Groupings.find?_of_project]
  split <;> simp_all

/-- The references to the tasks of a list, by service and by node, that a projection by node holds
together with the list of those without a node. -/
def filingsByNode (tasks : List Task) : List (String × Option String × TaskRef) :=
  (projectNodes tasks).filings.map (fun (node, service, ref) => (service, some node, ref)) ++
    (projectUnassigned tasks).map fun ref => (ref.serviceId.getD "", none, ref.unnamed)

/-- Both parts together hold each task with a service once. -/
theorem filingsByNode_perm (tasks : List Task) :
    (filingsByNode tasks).Perm (tasks.filterMap Task.filing?) := by
  rw [filingsByNode, projectUnassigned]
  refine (((Groupings.filings_project_perm Task.nodePlace tasks).map _).append_right _).trans ?_
  rw [List.map_filterMap, List.map_filterMap]
  refine (filterMap_append_perm tasks ?_).trans (List.Perm.of_eq ?_)
  · intro task
    unfold Task.nodePlace Task.unassignedRef?
    cases task.serviceId <;> cases task.nodeId <;> simp
  · apply List.filterMap_congr
    intro task _
    unfold Task.nodePlace Task.unassignedRef? Task.filing?
    cases hservice : task.serviceId <;> cases task.nodeId <;> simp [hservice]

/-- A projection by service holds each task with a service once. -/
theorem filings_projectServices_perm (tasks : List Task) :
    (projectServices tasks).filings.Perm
      ((tasks.filterMap Task.filing?).map fun (service, node, ref) =>
        (service, node.getD unassignedKey, ref)) := by
  refine (Groupings.filings_project_perm Task.servicePlace tasks).trans (List.Perm.of_eq ?_)
  rw [List.map_filterMap]
  apply List.filterMap_congr
  intro task _
  unfold Task.servicePlace Task.filing? Task.nodeKey
  cases task.serviceId <;> rfl

/-- The two projections are transposes of each other, up to the reserved key. -/
theorem groupings_transposed (tasks : List Task) :
    (∀ node service, node ≠ unassignedKey →
      ((projectNodes tasks).of node).find? service =
        ((projectServices tasks).of service).find? node) ∧
    (∀ service,
      let bucket := (((projectServices tasks).of service).find? unassignedKey).getD []
      let listed := ((projectUnassigned tasks).filter (·.serviceId = some service)).map
        TaskRef.unnamed
      bucket.filter (·.nodeId = none) = listed ∧
        bucket.filter (·.nodeId ≠ none) =
          (((projectNodes tasks).of unassignedKey).find? service).getD [] ∧
        (bucket = listed ↔
          ∀ task ∈ tasks, task.serviceId = some service → task.nodeId ≠ some unassignedKey)) ∧
    (filingsByNode tasks).Perm (tasks.filterMap Task.filing?) ∧
    (projectServices tasks).filings.Perm
      ((tasks.filterMap Task.filing?).map fun (service, node, ref) =>
        (service, node.getD unassignedKey, ref)) := by
  refine ⟨?_, ?_, filingsByNode_perm tasks, filings_projectServices_perm tasks⟩
  · intro node service hnode
    unfold projectNodes projectServices
    rw [Groupings.find?_of_project, Groupings.find?_of_project, bucket_nodePlace_eq hnode]
  · intro service bucket listed
    have hbucket : bucket = Groupings.bucket Task.servicePlace tasks service unassignedKey :=
      getD_find?_of_project _ tasks service unassignedKey
    have hnode : (((projectNodes tasks).of unassignedKey).find? service).getD [] =
        Groupings.bucket Task.nodePlace tasks unassignedKey service :=
      getD_find?_of_project _ tasks unassignedKey service
    rw [hbucket, hnode]
    exact ⟨filter_bucket_unassignedKey tasks service, filter_bucket_of_node tasks service,
      bucket_unassignedKey_eq_iff tasks service⟩

/-- A task of a node that has the reserved key as its ID: its service lists it beside the tasks
without a node, and it is not one of those. -/
def reservedNodeTask : Task := { id := "t", serviceId := some "s", nodeId := some unassignedKey }

theorem reserved_bucket_not_listed :
    ((projectServices [reservedNodeTask]).of "s").find? unassignedKey =
        some [reservedNodeTask.ref] ∧
      ((projectUnassigned [reservedNodeTask]).filter (·.serviceId = some "s")).map
        TaskRef.unnamed ≠ [reservedNodeTask.ref] :=
  ⟨rfl, List.cons_ne_nil _ _ ∘ Eq.symm⟩

end MockCluster
