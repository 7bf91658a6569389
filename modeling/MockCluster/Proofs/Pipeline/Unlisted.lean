import MockCluster.Pipeline.Run
import MockCluster.Proofs.Document.Rekey
import MockCluster.Proofs.Repair.Findings
import MockCluster.Proofs.Views.Backfill

/-!
Which tasks join the list because only a grouping knows them: one for every ID that references have
and no task has, made from the first of these references and the place where it is filed.

A repair and a synchronisation both begin with this, and each reports every task that has joined.
-/

namespace MockCluster

/-- Where a reference is filed: with a node under a service, with a service under a node, or with
the references that have no node. -/
inductive FilingPlace where
  | withNode (node service : String)
  | withoutNode
  | withService (service node : String)

namespace FilingPlace

/-- The service that a place names; the key of tasks without a node is none. -/
def service? : FilingPlace → Option String
  | withNode _ key => if key = Grouping.unassignedKey then none else some key
  | withoutNode => none
  | withService service _ => some service

def node? : FilingPlace → Option String
  | withNode node _ => some node
  | withoutNode => none
  | withService _ key => if key = Grouping.unassignedKey then none else some key

end FilingPlace

structure FiledRef where
  place : FilingPlace
  ref : TaskRef

/-- What a reference does not say of its task, its place says. -/
def FiledRef.task (filed : FiledRef) : Task :=
  Task.ofRef filed.ref filed.place.service? filed.place.node?

/-- The task says what the reference says, and nothing else.  A service or a node that the reference
leaves out is that of the place. -/
structure FiledRef.Describes (filed : FiledRef) (task : Task) : Prop where
  id : task.id = filed.ref.id
  serviceId : task.serviceId = filed.ref.serviceId.or filed.place.service?
  nodeId : task.nodeId = filed.ref.nodeId.or filed.place.node?
  serviceName : task.serviceName = filed.ref.serviceName
  nodeName : task.nodeName = filed.ref.nodeName
  stack : task.stack = filed.ref.stack
  createdAt : task.createdAt = filed.ref.createdAt
  updatedAt : task.updatedAt = filed.ref.updatedAt
  state : task.state = filed.ref.status.bind TaskStatus.state
  error : task.error = filed.ref.status.bind TaskStatus.error
  timestamp : task.timestamp = filed.ref.status.bind TaskStatus.timestamp
  desiredState : task.desiredState = none
  slot : task.slot = none
  status : task.status = none
  untyped : task.untyped = []

theorem FiledRef.describes_task (filed : FiledRef) : filed.Describes filed.task where
  id := rfl
  serviceId := Option.orElse_eq_or
  nodeId := Option.orElse_eq_or
  serviceName := rfl
  nodeName := rfl
  stack := rfl
  createdAt := rfl
  updatedAt := rfl
  state := rfl
  error := rfl
  timestamp := rfl
  desiredState := rfl
  slot := rfl
  status := rfl
  untyped := rfl

def Holder.filed (place : String → String → FilingPlace) (holder : Holder) : List FiledRef :=
  (holder.held.getD ∅).filings.map fun (key, ref) => ⟨place holder.owner key, ref⟩

namespace Document

/-- All references in the order in which they are scanned: those of the nodes, those without a node,
and those of the services, listing by listing. -/
def filed (doc : Document) : List FiledRef :=
  doc.nodeHolders.flatMap (Holder.filed .withNode) ++
    doc.horizontal.unassigned.map (FiledRef.mk .withoutNode) ++
    doc.serviceHolders.flatMap (Holder.filed .withService)

theorem referencedTasks_eq (doc : Document) :
    doc.referencedTasks = doc.filed.map FiledRef.task := by
  simp [referencedTasks, filed, nodeHolders, serviceHolders, allNodes, serviceGroupings, summaries,
    Holder.filed, Holder.ofNode, Holder.ofService, Holder.ofSummary, Grouping.filings,
    List.map_flatMap, List.flatMap_map, Function.comp_def, FiledRef.task, FilingPlace.service?,
    FilingPlace.node?, Grouping.hint]

theorem ids_firstUnknown (known : IdSet) (tasks : List Task) :
    (firstUnknown known tasks).map Task.id =
      ((tasks.map Task.id).filter fun id => id ≠ "" ∧ id ∉ known.toList).eraseDups := by
  induction tasks generalizing known with
  | nil => rfl
  | cons first rest ih =>
      rw [firstUnknown, List.map_cons]
      split
      next hold =>
        rw [IdSet.contains_iff] at hold
        rw [ih, List.filter_cons_of_neg]
        simpa using fun hne => hold.resolve_left hne
      next hnew =>
        rw [not_or, IdSet.contains_iff] at hnew
        rw [List.map_cons, ih, List.filter_cons_of_pos (by simpa using hnew), List.eraseDups_cons,
          List.filter_filter]
        congr 2
        apply List.filter_congr
        intro id _
        rw [Bool.eq_iff_iff]
        simp only [IdSet.mem_toList_insert, Bool.and_eq_true, decide_eq_true_iff, Bool.not_eq_true',
          beq_eq_false_iff_ne, not_or, not_and]
        constructor
        · rintro ⟨hne, hother, habsent⟩
          exact ⟨fun heq => hother heq hnew.1, hne, habsent⟩
        · rintro ⟨hother, hne, habsent⟩
          exact ⟨hne, fun heq => absurd heq hother, habsent⟩

theorem find?_of_mem_firstUnknown {known : IdSet} {tasks : List Task} {task : Task}
    (h : task ∈ firstUnknown known tasks) :
    tasks.find? (fun other => other.id = task.id) = some task := by
  induction tasks generalizing known with
  | nil => cases h
  | cons first rest ih =>
      obtain ⟨hne, habsent⟩ := id_of_mem_firstUnknown h
      rw [firstUnknown] at h
      split at h
      next hold =>
        rw [List.find?_cons_of_neg, ih h]
        rw [decide_eq_true_iff]
        intro heq
        rw [heq, IdSet.contains_iff] at hold
        exact hold.elim hne habsent
      next hnew =>
        rw [not_or] at hnew
        rcases List.mem_cons.1 h with rfl | h
        · exact List.find?_cons_of_pos (decide_eq_true rfl)
        · rw [List.find?_cons_of_neg, ih h]
          rw [decide_eq_true_iff]
          intro heq
          apply (id_of_mem_firstUnknown h).2
          exact IdSet.mem_toList_insert.2 (.inl ⟨heq.symm, hnew.1⟩)

theorem ids_unlistedTasks (doc : Document) :
    doc.unlistedTasks.map Task.id =
      ((doc.filed.map fun filed => filed.ref.id).filter fun id =>
        id ≠ "" ∧ id ∉ doc.taskIds).eraseDups := by
  rw [unlistedTasks, ids_firstUnknown, referencedTasks_eq, List.map_map]
  congr 1
  apply List.filter_congr
  intro id _
  rw [decide_eq_decide, IdSet.mem_toList_ofList]
  exact and_congr_right fun hne => not_congr (and_iff_left hne)

theorem exists_find?_filed_of_mem_unlistedTasks {doc : Document} {task : Task}
    (h : task ∈ doc.unlistedTasks) :
    ∃ filed, doc.filed.find? (fun filed => filed.ref.id = task.id) = some filed ∧
      task = filed.task := by
  have hfirst := find?_of_mem_firstUnknown h
  rw [referencedTasks_eq, List.find?_map] at hfirst
  obtain ⟨filed, hfind, htask⟩ := Option.map_eq_some_iff.1 hfirst
  exact ⟨filed, hfind, htask.symm⟩

end Document

/-- The tasks that join the list are appended, and that is all that changes.  There is one for each
ID that references have and no task has, in the order in which the references are scanned, and it is
the task that the first of them describes.  A repair and a synchronisation count and report these
tasks, and afterwards there are no more. -/
theorem first_references_join_tasks (settings : Settings) (now : Instant) (store : Store)
    (summary : RunSummary) :
    let doc := store.doc
    let added := doc.unlistedTasks
    let reported := added.map fun task =>
      ({ subject := task.id
         code := .taskBackfilled
         text := "Task found only in a grouping was added to the task list" } : Finding)
    let report := (store.repair settings.repair).2
    let synced := (Stage.syncViews.run settings now store summary).2
    doc.backfill = { doc with tasks := doc.tasks ++ added } ∧
      (added.map Task.id).Nodup ∧
      (∀ id, id ∈ added.map Task.id ↔
        id ≠ "" ∧ id ∉ doc.taskIds ∧ ∃ filed ∈ doc.filed, filed.ref.id = id) ∧
      added.map Task.id = ((doc.filed.map fun filed => filed.ref.id).filter fun id =>
        id ≠ "" ∧ id ∉ doc.taskIds).eraseDups ∧
      (∀ task ∈ added, ∃ filed,
        doc.filed.find? (fun filed => filed.ref.id = task.id) = some filed ∧
          task = filed.task ∧ filed.Describes task) ∧
      report.backfilled = added.length ∧
      report.findings.withCode .taskBackfilled = reported ∧
      synced.views.map ViewStats.backfilled = some added.length ∧
      synced.findings = summary.findings ++ reported ∧
      doc.backfill.unlistedTasks = [] := by
  intro doc added reported report synced
  have hids := doc.ids_unlistedTasks
  refine ⟨rfl, doc.newTasks_unlistedTasks.nodup, fun id => ?_, hids, fun task hmem => ?_, rfl,
    Store.withCode_repairFindings _ _ _ _ _ .taskBackfilled, ?_, rfl, doc.unlistedTasks_backfill⟩
  · rw [hids, List.mem_eraseDups, List.mem_filter, decide_eq_true_iff, List.mem_map, and_comm,
      and_assoc]
  · obtain ⟨filed, hfirst, rfl⟩ := Document.exists_find?_filed_of_mem_unlistedTasks hmem
    exact ⟨filed, hfirst, rfl, filed.describes_task⟩
  · change some (doc.sync.tasks.length - doc.tasks.length) = _
    rw [Document.tasks_sync, List.length_append, Nat.add_sub_cancel_left]

/-- References without a service and a node under a service and under the key of tasks without one,
and a reference with a service and a node of its own.  The service files the first task again. -/
def filedApart : Document where
  nodes := [{ id := "n",
              tasks := some (OrderedMap.ofList
                [("s", [{ id := "a" }, { id := "b", serviceId := some "t", nodeId := some "m" }]),
                  ("unassigned", [{ id := "c" }])]) }]
  services := [{ id := "u", tasks := some (OrderedMap.ofList [("unassigned", [{ id := "a" }])]) }]

theorem places_complete_first_references :
    let added := filedApart.unlistedTasks
    added.map Task.id = ["a", "b", "c"] ∧
      ∀ task ∈ added,
        (task.id = "a" → task.serviceId = some "s" ∧ task.nodeId = some "n") ∧
        (task.id = "b" → task.serviceId = some "t" ∧ task.nodeId = some "m") ∧
        (task.id = "c" → task.serviceId = none ∧ task.nodeId = some "n") := by
  intro added
  obtain ⟨-, -, -, hids, hfirst, -⟩ :=
    first_references_join_tasks .standard ⟨0, 0⟩ (Store.of "doc.json" filedApart) { stages := [] }
  refine ⟨hids.trans (by decide), fun task hmem => ?_⟩
  obtain ⟨filed, hfound, -, hdescribes⟩ := hfirst task hmem
  rw [hdescribes.serviceId, hdescribes.nodeId]
  refine ⟨fun hid => ?_, fun hid => ?_, fun hid => ?_⟩
  all_goals
    rw [hid] at hfound
    cases hfound
    exact ⟨rfl, rfl⟩

end MockCluster
