import Mathlib.Data.List.TakeWhile
import MockCluster.Proofs.Synthesis.Tasks

/-!
The two passes of the task synthesis: which tasks they list, in which order and on which nodes, and
how far the first one gets before the calendar ends.
-/

namespace MockCluster

namespace Synthetic

theorem errorText_ne_empty_iff {state : TaskState} {turn : Nat} {name : String} :
    errorText state turn name ≠ "" ↔ state = .failed := by
  cases state with
  | failed => simp [errorText, String.append_eq_empty_iff]
  | running | pending | shutdown | complete => simp [errorText]

theorem mem_taskNumbers {services i j : Nat} :
    (i, j) ∈ taskNumbers services ↔ 1 ≤ i ∧ i ≤ services ∧ j < 1 + i % 3 := by
  rw [taskNumbers, List.mem_flatMap]
  constructor
  · rintro ⟨service, hservice, hpair⟩
    obtain ⟨turn, hturn, heq⟩ := List.mem_map.1 hpair
    obtain ⟨rfl, rfl⟩ := Prod.mk.inj heq
    have hrange := List.mem_range'_1.1 hservice
    exact ⟨hrange.1, by omega, List.mem_range.1 hturn⟩
  · rintro ⟨hpos, hle, hturn⟩
    refine ⟨i, List.mem_range'_1.2 ⟨hpos, by omega⟩, ?_⟩
    exact List.mem_map_of_mem (List.mem_range.2 hturn)

theorem pairwise_taskNumbers (services : Nat) :
    (taskNumbers services).Pairwise (Prod.Lex (· < ·) (· < ·)) := by
  rw [taskNumbers, List.pairwise_flatMap]
  constructor
  · intro i _
    rw [List.pairwise_map]
    exact List.pairwise_lt_range.imp fun hlt => Prod.Lex.right _ hlt
  · apply (List.pairwise_lt_range').imp
    intro i k hlt first hfirst second hsecond
    obtain ⟨j, _, rfl⟩ := List.mem_map.1 hfirst
    obtain ⟨l, _, rfl⟩ := List.mem_map.1 hsecond
    exact Prod.Lex.left _ _ hlt

end Synthetic

namespace TaskState

theorem name_injective : Function.Injective name := by
  intro first second
  cases first <;> cases second <;> decide

theorem name_desired_eq_iff {state : TaskState} :
    state.desired.name = "running" ↔ state.name = "running" := by
  cases state <;> decide

end TaskState

/-- The task has this ID and is on this node, if there is one.  It has an error if and only if it
has failed, and is meant to run if and only if it runs. -/
structure Task.IsCreated (id : String) (node? : Option Node) (task : Task) : Prop where
  id : task.id = id
  node : task.nodeId = node?.map Node.id
  error : ∃ text, task.error = some text ∧ (text ≠ "" ↔ task.state = some "failed")
  desired : task.desiredState = some "running" ↔ task.state = some "running"

theorem Task.IsCreated.of_state {task : Task} {id : String} {node? : Option Node}
    {state : TaskState} {turn : Nat} {serviceName : String} (hid : task.id = id)
    (hnode : task.nodeId = node?.map Node.id) (hstate : task.state = some state.name)
    (herror : task.error = some (Synthetic.errorText state turn serviceName))
    (hdesired : task.desiredState = some state.desired.name) : task.IsCreated id node? where
  id := hid
  node := hnode
  error := by
    refine ⟨_, herror, ?_⟩
    rw [Synthetic.errorText_ne_empty_iff, hstate, Option.some_inj]
    exact TaskState.name_injective.eq_iff.symm
  desired := by
    rw [hdesired, hstate, Option.some_inj, Option.some_inj, TaskState.name_desired_eq_iff]

namespace Document

/-- A pass has listed these tasks, each told by its ID and its node, behind the tasks that were
there, and has returned their number.  If there are none it has done nothing. -/
structure Gains (before : Document) (wanted : List (String × Option Node)) (after : Document)
    (count : Nat) : Prop where
  listed : ∃ added, after.tasks = before.tasks ++ added ∧
    List.Forall₂ (fun (id, node?) task => Task.IsCreated id node? task) wanted added
  counted : count = wanted.length
  distinct : before.taskIds.Nodup → after.taskIds.Nodup
  timeline : count ≠ 0 → after.timeline = projectTimeline after.tasks
  idle : count = 0 → after = before

theorem Gains.refl (doc : Document) : doc.Gains [] doc 0 where
  listed := ⟨[], (List.append_nil _).symm, .nil⟩
  counted := rfl
  distinct hnodup := hnodup
  timeline := absurd rfl
  idle _ := rfl

theorem gains_insertAll {α : Type} {doc : Document} {items : List α}
    {wanted : α → String × Option Node} {task : α → Task}
    (hcreated : ∀ item, (task item).IsCreated (wanted item).1 (wanted item).2)
    (hnew : doc.NewTasks (items.map task)) :
    doc.Gains (items.map wanted) (doc.insertAll (items.map task)) (items.map task).length where
  listed := by
    refine ⟨items.map task, doc.tasks_insertAll _, ?_⟩
    rw [List.forall₂_map_left_iff, List.forall₂_map_right_iff, List.forall₂_same]
    exact fun item _ => hcreated item
  counted := by rw [List.length_map, List.length_map]
  distinct := by
    intro hnodup
    rw [taskIds_insertAll, List.nodup_append]
    refine ⟨hnodup, hnew.nodup, ?_⟩
    rintro id hold _ hadded rfl
    obtain ⟨task, htask, rfl⟩ := List.mem_map.1 hadded
    exact hnew.unlisted task htask hold
  timeline := by
    intro hsome
    have hnonempty : ¬ (items.map task).isEmpty = true := by
      rw [List.isEmpty_iff_length_eq_zero]
      exact hsome
    rw [insertAll, if_neg hnonempty]
    rfl
  idle := by
    intro hnone
    rw [List.length_eq_zero_iff.1 hnone]
    rfl

/-- The nodes of the roster that have an ID. -/
def placeable (doc : Document) : List Node := doc.roster.filter fun node => node.id ≠ ""

variable (doc : Document) (now : Instant)

theorem placements_eq :
    doc.placements = doc.placeable.map fun node => ⟨node.id, node.displayName⟩ := rfl

theorem isCreated_rotatedTask (i j : Nat) :
    (doc.rotatedTask now (i, j)).IsCreated (Synthetic.taskId i j)
      doc.placeable[(i + j) % doc.placeable.length]? := by
  have hnode : (doc.rotatedTask now (i, j)).nodeId =
      doc.placeable[(i + j) % doc.placeable.length]?.map Node.id := by
    change doc.placements[(i + j) % doc.placements.length]?.map Placement.id = _
    rw [placements_eq, List.length_map, List.getElem?_map, Option.map_map]
    rfl
  exact .of_state rfl hnode rfl rfl rfl

theorem isCreated_extraTask {first : Placement} (hfirst : doc.placements.head? = some first)
    (i : Nat) :
    (doc.extraTask now first i).IsCreated (Synthetic.extraTaskId i) doc.placeable.head? := by
  have hnode : (doc.extraTask now first i).nodeId = doc.placeable.head?.map Node.id := by
    rw [placements_eq, List.head?_map] at hfirst
    obtain ⟨node, hnode, rfl⟩ := Option.map_eq_some_iff.1 hfirst
    rw [hnode]
    rfl
  exact .of_state rfl hnode rfl rfl rfl

variable (source : String) (services : Nat)

theorem gains_synthesizeTasks :
    let outcome := (Store.of source doc).synthesizeTasks now services
    doc.Gains ((doc.missingTasks services).map fun (i, j) =>
      (Synthetic.taskId i j, doc.placeable[(i + j) % doc.placeable.length]?))
        outcome.1.doc outcome.2 := by
  intro outcome
  have hdoc : outcome.1.doc = doc.synthesized now services :=
    congrArg Store.doc (Store.fst_synthesizeTasks_of source doc now services)
  rw [hdoc]
  exact gains_insertAll (fun (i, j) => doc.isCreated_rotatedTask now i j) newTasks_rotated

/-- The services that the second pass creates a task for. -/
def wantedExtras : List Nat := if doc.placeable = [] then [] else doc.missingExtras services

theorem wantedExtras_of_none (hnone : doc.placements.head? = none) :
    doc.wantedExtras services = [] := by
  rw [List.head?_eq_none_iff, placements_eq, List.map_eq_nil_iff] at hnone
  rw [wantedExtras, if_pos hnone]

theorem wantedExtras_of_some {first : Placement} (hfirst : doc.placements.head? = some first) :
    doc.wantedExtras services = doc.missingExtras services := by
  have hnonempty : doc.placeable ≠ [] := by
    intro hempty
    rw [placements_eq, hempty] at hfirst
    cases hfirst
  rw [wantedExtras, if_neg hnonempty]

theorem gains_synthesizeExtraTasks :
    let outcome := (Store.of source doc).synthesizeExtraTasks now services
    doc.Gains ((doc.wantedExtras services).map fun i =>
      (Synthetic.extraTaskId i, doc.placeable.head?)) outcome.1.doc outcome.2 := by
  intro outcome
  have hdoc : (Store.of source doc).doc = doc := rfl
  cases hfirst : doc.placements.head? with
  | none =>
      have houtcome : outcome = (Store.of source doc, 0) := by
        simp only [outcome, Store.synthesizeExtraTasks, hdoc, hfirst]
      rw [houtcome, wantedExtras_of_none doc services hfirst]
      exact .refl doc
  | some first =>
      let tasks := (doc.missingExtras services).map (doc.extraTask now first)
      have houtcome : outcome = ((Store.of source doc).insertTasks tasks, tasks.length) := by
        simp only [outcome, Store.synthesizeExtraTasks, hdoc, hfirst]
        rfl
      rw [houtcome, wantedExtras_of_some doc services hfirst, Store.doc_insertTasks]
      exact gains_insertAll (doc.isCreated_extraTask now hfirst) (newTasks_extra first)

theorem mem_wantedExtras {i : Nat} :
    i ∈ doc.wantedExtras services ↔ doc.placeable ≠ [] ∧ 1 ≤ i ∧ i ≤ services ∧
      Synthetic.extraTaskId i ∉ doc.taskIds := by
  unfold wantedExtras
  split
  next hempty => simp [hempty]
  next hnonempty =>
    have hrange : i ∈ List.range' 1 services ↔ 1 ≤ i ∧ i ≤ services := by
      rw [List.mem_range'_1]
      omega
    rw [mem_missingExtras, hrange, and_iff_right hnonempty, and_assoc]

theorem pairwise_wantedExtras : (doc.wantedExtras services).Pairwise (· < ·) := by
  unfold wantedExtras
  split
  · exact .nil
  · exact (List.pairwise_lt_range').filter _

end Document

theorem Instant.isValid_iff {instant : Instant} : instant.isValid = true ↔
    firstSecond ≤ instant.second ∧ instant.second ≤ lastSecond ∧
      (instant.nanos < billion ∨ (instant.nanos < 2 * billion ∧ instant.second % 60 = 59)) := by
  rw [isValid, Bool.and_eq_true, Bool.and_eq_true, Bool.or_eq_true, Bool.and_eq_true,
    decide_eq_true_iff, decide_eq_true_iff, decide_eq_true_iff, decide_eq_true_iff,
    decide_eq_true_iff, and_assoc]

/-- Going back is possible as long as it does not lead behind the beginning of the calendar. -/
theorem Instant.reaches_of_le {now : Instant} {minutes : Nat} (hvalid : now.isValid = true)
    (hroom : firstSecond + 60 * minutes ≤ now.second) : now.reaches minutes = true := by
  obtain ⟨_, hlast, hnanos⟩ := isValid_iff.1 hvalid
  unfold reaches minutesBefore
  split
  next => exact hvalid
  next hminutes =>
    split
    next hwhole =>
      refine isValid_iff.2 ⟨?_, ?_, .inl hwhole⟩
      · change firstSecond ≤ now.second - 60 * minutes
        omega
      · change now.second - 60 * minutes ≤ lastSecond
        omega
    next hleap =>
      have hafter : (minutes : Int) > 0 := by omega
      rw [if_pos hafter]
      refine isValid_iff.2 ⟨?_, ?_, .inl ?_⟩
      · change firstSecond ≤ now.second - 60 * minutes + 1
        omega
      · change now.second - 60 * minutes + 1 ≤ lastSecond
        omega
      · change now.nanos - billion < billion
        omega

/-- The first pass reaches its end if and only if the calendar has the time of every task that it
creates. -/
theorem Store.synthesizeTasksWithin_eq_ok_iff (store : Store) (now : Instant) (services : Nat) :
    store.synthesizeTasksWithin now services = .ok (store.synthesizeTasks now services) ↔
      ∀ number ∈ store.missingTasks services, now.reaches number.2 = true := by
  rw [← List.takeWhile_eq_self_iff, synthesizeTasksWithin]
  constructor
  · intro hok
    by_contra hshort
    have hlength : ((store.missingTasks services).takeWhile fun number =>
        now.reaches number.2).length ≠ (store.missingTasks services).length :=
      fun heq => hshort ((List.takeWhile_prefix _).eq_of_length heq)
    rw [if_neg hlength] at hok
    cases hok
  · intro hall
    rw [if_pos (congrArg List.length hall)]

open Document Synthetic

/-- Each pass lists what is missing, in the order of the numbers, and nothing else.  The first one
goes round the nodes of the roster, the second one keeps to the first of them and does nothing if
there is none.  The timeline follows.  Only within two minutes of the beginning of the calendar the
first pass may fail to reach its end, if it needs a time from before. -/
theorem passes_list_missing_tasks (source : String) (doc : Document) (now : Instant)
    (services : Nat) :
    let store := Store.of source doc
    let roster := doc.placeable
    let primary := store.synthesizeTasks now services
    let extra := store.synthesizeExtraTasks now services
    (∃ numbers : List (Nat × Nat), numbers.Pairwise (Prod.Lex (· < ·) (· < ·)) ∧
        (∀ i j, (i, j) ∈ numbers ↔
          1 ≤ i ∧ i ≤ services ∧ j < 1 + i % 3 ∧ taskId i j ∉ doc.taskIds) ∧
        doc.Gains (numbers.map fun (i, j) => (taskId i j, roster[(i + j) % roster.length]?))
          primary.1.doc primary.2 ∧
        (store.synthesizeTasksWithin now services = .ok primary ↔
          ∀ number ∈ numbers, now.reaches number.2 = true) ∧
        (now.isValid = true → Instant.firstSecond + 120 ≤ now.second →
          store.synthesizeTasksWithin now services = .ok primary)) ∧
      ∃ numbers : List Nat, numbers.Pairwise (· < ·) ∧
        (∀ i, i ∈ numbers ↔
          roster ≠ [] ∧ 1 ≤ i ∧ i ≤ services ∧ extraTaskId i ∉ doc.taskIds) ∧
        doc.Gains (numbers.map fun i => (extraTaskId i, roster.head?)) extra.1.doc extra.2 := by
  intro store roster primary extra
  constructor
  · have hends := store.synthesizeTasksWithin_eq_ok_iff now services
    refine ⟨doc.missingTasks services, (pairwise_taskNumbers services).filter _, ?_,
      doc.gains_synthesizeTasks now source services, hends, ?_⟩
    · intro i j
      rw [mem_missingTasks, mem_taskNumbers, and_assoc, and_assoc]
    · intro hvalid hroom
      refine hends.2 fun (i, j) hnumber => Instant.reaches_of_le hvalid ?_
      have hturn := (mem_taskNumbers.1 (List.mem_of_mem_filter hnumber)).2.2
      omega
  · exact ⟨doc.wantedExtras services, doc.pairwise_wantedExtras services,
      fun _ => doc.mem_wantedExtras services, doc.gains_synthesizeExtraTasks now source services⟩

end MockCluster
