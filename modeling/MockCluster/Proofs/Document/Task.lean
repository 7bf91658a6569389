import MockCluster.Document.Task

/-!
A task, the reference to it, and its timeline entry.

State and error of a task may stand in the task itself or in its status block, where an empty one in
the task counts as missing and one in the block does not.  So a reference, made from a task and made
into a task again, describes the same task, but loses an empty state on the way.  A timeline entry
shows the state wherever it stands, and yet takes the end of a task from its last change only where
the state is in the task itself.
-/

namespace MockCluster

/-- A reference whose status says nothing where its state is empty. -/
def TaskRef.withoutBlankState (ref : TaskRef) : TaskRef :=
  { ref with
    status := ref.status.map fun status =>
      { status with state := status.state.filter (· ≠ "") } }

namespace Task

section Rebuilt

variable (ref : TaskRef) (service? node? : Option String)

theorem currentState_ofRef :
    (ofRef ref service? node?).currentState =
      (ref.status.bind TaskStatus.state).filter (· ≠ "") := by
  simp [currentState, ofRef]

theorem errorMessage_ofRef :
    (ofRef ref service? node?).errorMessage =
      (ref.status.bind TaskStatus.error).filter (· ≠ "") := by
  simp [errorMessage, ofRef]

end Rebuilt

/-- References always say an error, if only the empty one. -/
theorem getD_filter_error (message : String) :
    ((some message).filter (· ≠ "")).getD "" = message := by
  by_cases h : message = "" <;> simp [Option.filter, h]

/-- The reference to a rebuilt task, whatever stood in for what the reference leaves out. -/
theorem ref_ofRef_ref (task : Task) (service? node? : Option String) :
    (ofRef task.ref service? node?).ref =
      { task.ref.withoutBlankState with
        serviceId := task.serviceId <|> service?
        nodeId := task.nodeId <|> node? } := by
  rw [ref, currentState_ofRef, errorMessage_ofRef]
  simp only [TaskRef.withoutBlankState, ref, ofRef, Option.bind_some, Option.map_some,
    getD_filter_error]

theorem withoutBlankState_ref_eq_iff (task : Task) :
    task.ref.withoutBlankState = task.ref ↔ task.currentState ≠ some "" := by
  have hstate : task.ref.withoutBlankState = task.ref ↔
      task.currentState.filter (· ≠ "") = task.currentState := by
    simp [TaskRef.withoutBlankState, ref]
  rw [hstate]
  cases task.currentState <;> simp [Option.filter_eq_some_iff]

/-- A reference determines itself: the task rebuilt from it, with the service and the node of the
bucket it is filed in, has the same reference, unless the state is the empty text.  That is left out,
and all else stays. -/
theorem reference_rebuilt_iff (task : Task) :
    let rebuilt := ofRef task.ref task.serviceId task.nodeId
    (rebuilt.ref = task.ref ↔ task.currentState ≠ some "") ∧
      rebuilt.ref = task.ref.withoutBlankState := by
  intro rebuilt
  have hrebuilt : rebuilt.ref = task.ref.withoutBlankState := by
    rw [ref_ofRef_ref]
    simp [TaskRef.withoutBlankState, ref]
  exact ⟨hrebuilt ▸ task.withoutBlankState_ref_eq_iff, hrebuilt⟩

/-- A task whose state is an empty text in its status block. -/
def blankState : Task where
  id := "t"
  serviceId := some "s"
  nodeId := some "n"
  status := some { state := some "" }

theorem blank_state_lost :
    blankState.ref.status = some { state := some "", error := some "" } ∧
      (ofRef blankState.ref blankState.serviceId blankState.nodeId).ref.status =
        some { error := some "" } ∧
      (ofRef blankState.ref blankState.serviceId blankState.nodeId).ref ≠ blankState.ref := by
  decide

/-- What is said outright of the end of a task. -/
def saidStop (task : Task) : Option String :=
  task.untypedString "StoppedTimestamp" <|> task.untypedString "StoppedAt"

def lastChange (task : Task) : Option String := task.updatedAt <|> task.timestamp

section Stopped

variable {task : Task} {state : String}

theorem stoppedAt_of_state (hstate : task.state = some state) (hsaid : state ≠ "") :
    task.stoppedAt =
      (task.saidStop <|> if state = "running" then none else task.lastChange).getD "" := by
  by_cases hrunning : state = "running" <;>
    simp [stoppedAt, saidStop, lastChange, hstate, hsaid, hrunning]

/-- A state in the status block does not count here. -/
theorem stoppedAt_of_no_state (hstate : task.state.filter (· ≠ "") = none) :
    task.stoppedAt = task.saidStop.getD "" := by
  cases hcase : task.state with
  | none => simp [stoppedAt, saidStop, hcase]
  | some own =>
      have hempty : own = "" := by simpa [hcase] using hstate
      simp [stoppedAt, saidStop, hcase, hempty]

end Stopped

/-- Nothing in the entry but the end of the task depends on where the state stands. -/
theorem timelineEntry_withState {task : Task} {state : String} (h : task.currentState = some state)
    (hsaid : state ≠ "") :
    ({ task with state := some state } : Task).timelineEntry =
      { task.timelineEntry with
        stopped := ({ task with state := some state } : Task).stoppedAt } := by
  have hcurrent : ({ task with state := some state } : Task).currentState = task.currentState := by
    rw [h]
    simp [currentState, hsaid]
  simp only [timelineEntry, hcurrent]
  rfl

theorem timelineEntry_withState_eq_iff {task : Task} {state : String}
    (h : task.currentState = some state) (hsaid : state ≠ "") :
    task.timelineEntry = ({ task with state := some state } : Task).timelineEntry ↔
      task.stoppedAt = ({ task with state := some state } : Task).stoppedAt := by
  rw [timelineEntry_withState h hsaid]
  constructor
  · intro hentry
    exact congrArg TimelineEntry.stopped hentry
  · intro hstopped
    rw [← hstopped]
    rfl

/-- A task and the same task with its state in the place of its own have the same timeline entry but
for the end, and that is the same exactly where the task has its state there anyway, or runs, or the
end is said outright, or there is no time of a last change to take it from. -/
theorem timeline_follows_state_iff {task : Task} {state : String}
    (h : task.currentState = some state) (hsaid : state ≠ "") :
    let stated : Task := { task with state := some state }
    stated.timelineEntry = { task.timelineEntry with stopped := stated.stoppedAt } ∧
      (task.timelineEntry = stated.timelineEntry ↔
        task.state = some state ∨ state = "running" ∨ task.saidStop ≠ none ∨
          task.lastChange.getD "" = "") := by
  intro stated
  refine ⟨timelineEntry_withState h hsaid, (timelineEntry_withState_eq_iff h hsaid).trans ?_⟩
  have hstated : stated.stoppedAt =
      (task.saidStop <|> if state = "running" then none else task.lastChange).getD "" :=
    stoppedAt_of_state rfl hsaid
  rw [hstated]
  cases hown : task.state.filter (· ≠ "") with
  | some own =>
      have hstate : task.state = some state := by
        rw [currentState, hown] at h
        have howned : own = state := Option.some.inj h
        rw [← howned]
        exact (Option.filter_eq_some_iff.1 hown).1
      rw [stoppedAt_of_state hstate hsaid]
      simp [hstate]
  | none =>
      have hstate : task.state ≠ some state := by
        intro hstate
        simp [hstate, hsaid] at hown
      rw [stoppedAt_of_no_state hown]
      cases task.saidStop with
      | some said => simp
      | none =>
          by_cases hrunning : state = "running"
          · simp [hrunning]
          · simp only [Option.getD_none, hstate, hrunning, if_false, ne_eq, not_true_eq_false,
              false_or]
            exact eq_comm

/-- A task that has failed according to its status block. -/
def endedInBlock : Task where
  id := "t"
  updatedAt := some "2024-01-01T00:05:00.000Z"
  status := some { state := some "failed" }

theorem end_in_block_ignored :
    let stated : Task := { endedInBlock with state := some "failed" }
    endedInBlock.currentState = some "failed" ∧
      endedInBlock.timelineEntry ≠ stated.timelineEntry ∧
      endedInBlock.timelineEntry.stopped = "" ∧
      stated.timelineEntry.stopped = "2024-01-01T00:05:00.000Z" := by
  decide

theorem timeline_follows_state_of_saidStop :
    let task : Task :=
      { endedInBlock with untyped := [("StoppedAt", .string "2024-02-02T00:00:00.000Z")] }
    task.currentState = some "failed" ∧ "failed" ≠ "" ∧
      task.timelineEntry = ({ task with state := some "failed" } : Task).timelineEntry := by
  intro task
  have hstate : task.currentState = some "failed" := by decide
  have hsaid : task.saidStop ≠ none := by decide
  exact ⟨hstate, by decide,
    (timeline_follows_state_iff hstate (by decide)).2.2 (.inr (.inr (.inl hsaid)))⟩

end Task

end MockCluster
