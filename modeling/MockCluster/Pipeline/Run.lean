import MockCluster.Pipeline.Plan
import MockCluster.Repair.Duplicates
import MockCluster.Repair.Report
import MockCluster.Synthesis.Services
import MockCluster.Synthesis.Tasks
import MockCluster.Views.Sync
import MockCluster.WriteBack

/-!
Running a plan on a store, and the summary of what it did.
-/

namespace MockCluster

structure RunSummary where
  stages : Plan := []
  servicesCreated : List String := []
  tasksCreated : Nat := 0
  /-- The last repair; its findings are among those of the run. -/
  repair : Option RepairReport := none
  duplicatesRenamed : List Rename := []
  views : Option ViewStats := none
  findings : Findings := []
  persisted : Option WriteBackReport := none
  degraded : Bool := false
  deriving DecidableEq, Repr

namespace RunSummary

def renameJson (rename : Rename) : Json :=
  .object [("from", .string rename.old), ("to", .string rename.new)]

def optionalMember {α : Type} (name : String) (toJson : α → Json) : Option α → Members
  | some value => [(name, toJson value)]
  | none => []

def toJson (summary : RunSummary) : Json :=
  .object
    ([("stages", .array (summary.stages.map fun stage => .string stage.name)),
        ("services_created", .array (summary.servicesCreated.map .string)),
        ("tasks_created", .ofNat summary.tasksCreated)] ++
      optionalMember "repair" RepairReport.toJson summary.repair ++
      [("duplicates_renamed", .array (summary.duplicatesRenamed.map renameJson))] ++
      optionalMember "views" ViewStats.toJson summary.views ++
      [("diagnostics", Findings.codec.write summary.findings)] ++
      optionalMember "persisted" WriteBackReport.toJson summary.persisted ++
      [("degraded", .bool summary.degraded)])

/-- Success, or success without the write-back. -/
def exitCode (summary : RunSummary) : Nat := if summary.degraded then 2 else 0

def repairLines (report : RepairReport) : List String :=
  ["Collisions repaired: " ++ toString report.collisions.length] ++
    report.collisions.map (fun rename => "  " ++ rename.old ++ " -> " ++ rename.new) ++
    report.updates.map (fun update =>
      "  " ++ update.kind.name ++ " " ++ update.rename.old ++ " -> " ++ update.rename.new ++
        " (" ++ toString update.count ++ ")") ++
    (if report.backfilled > 0 then
      ["Tasks backfilled from groupings: " ++ toString report.backfilled]
    else []) ++
    (if report.stubs.isEmpty then []
    else ["Service stubs added: " ++ ", ".intercalate report.stubs])

def viewLine (stats : ViewStats) : String :=
  "Views: " ++ toString stats.backfilled ++ " backfilled, " ++ toString stats.nodeRefsAdded ++
    " node refs, " ++ toString stats.serviceRefsAdded ++ " service refs, " ++
    toString stats.unassignedRefsAdded ++ " unassigned refs, " ++
    toString stats.staleRefsRemoved ++ " stale refs dropped, " ++
    toString stats.timelineEntries ++ " timeline entries"

def persistedLine (report : WriteBackReport) : String :=
  "Persisted " ++ toString report.bytes ++ " bytes to " ++ report.path ++ " (" ++
    report.checksum.short ++ ")"

def lines (summary : RunSummary) : List String :=
  ["Stages: " ++ " -> ".intercalate (summary.stages.map Stage.label),
    "Services created: " ++ toString summary.servicesCreated.length,
    "Tasks created: " ++ toString summary.tasksCreated] ++
    (summary.repair.map repairLines).getD [] ++
    ["Duplicate task IDs renamed: " ++ toString summary.duplicatesRenamed.length] ++
    (summary.views.map viewLine).toList ++
    (summary.persisted.map persistedLine).toList

def message (summary : RunSummary) : String :=
  String.join (summary.lines.map (· ++ "\n")) ++
    (if summary.findings.isEmpty then "" else "\n" ++ summary.findings.message)

def recordWriteBack (summary : RunSummary) :
    Except WriteBackFailure WriteBackReport → RunSummary
  | .ok report => { summary with persisted := some report }
  | .error failure =>
    let finding : Finding :=
      { subject := failure.path, code := .persistenceFailure, text := failure.message }
    { summary with findings := summary.findings ++ [finding], degraded := true }

end RunSummary

namespace Stage

def run (settings : Settings) (now : Instant) (stage : Stage) (store : Store)
    (summary : RunSummary) : Store × RunSummary :=
  match stage with
  | .ensureServices =>
    let (store, created) := store.ensureServices now settings.synthesis.serviceCount
    (store, { summary with servicesCreated := summary.servicesCreated ++ created })
  | .synthesizeTasks =>
    let (store, created) := store.synthesizeTasks now settings.synthesis.taskServices
    (store, { summary with tasksCreated := summary.tasksCreated + created })
  | .synthesizeExtraTasks =>
    let (store, created) := store.synthesizeExtraTasks now settings.synthesis.taskServices
    (store, { summary with tasksCreated := summary.tasksCreated + created })
  | .repairReferences =>
    let (store, report) := store.repair settings.repair
    (store,
      { summary with
        findings := summary.findings ++ report.findings
        repair := some { report with findings := [] } })
  | .dedupeTasks =>
    let (store, renames) := store.dedupe
    (store,
      { summary with
        findings := summary.findings ++ renames.map Finding.duplicateRenamed
        duplicatesRenamed := summary.duplicatesRenamed ++ renames })
  | .syncViews =>
    let synced := store.doc.sync
    ((store.modify fun _ => synced).reindex,
      { summary with
        findings := summary.findings ++ store.doc.unlistedTasks.map Finding.backfilled
        views := some (Document.viewChanges store.doc synced) })

def runWithin (settings : Settings) (now : Instant) (stage : Stage) (store : Store)
    (summary : RunSummary) : Except Store (Store × RunSummary) :=
  match stage with
  | .synthesizeTasks => do
    let _ ← store.synthesizeTasksWithin now settings.synthesis.taskServices
    return stage.run settings now store summary
  | stage => .ok (stage.run settings now store summary)

end Stage

namespace Plan

def run (plan : Plan) (settings : Settings) (now : Instant) (store : Store) :
    Store × RunSummary :=
  plan.foldl (fun (store, summary) stage => stage.run settings now store summary)
    (store, { stages := plan })

/-- Runs the stages as long as the calendar can tell their times; otherwise only the store is left. -/
def runWithin (plan : Plan) (settings : Settings) (now : Instant) (store : Store) :
    Except Store (Store × RunSummary) :=
  plan.foldlM (fun (store, summary) stage => stage.runWithin settings now store summary)
    (store, { stages := plan })

end Plan

variable {m : Type → Type} [Monad m] [FileAccess m]

def writeBackIfEnabled (settings : WriteBackSettings) (store : Store) (summary : RunSummary) :
    m RunSummary := do
  if settings.enabled then
    let outcome ← WriteBack.commit settings store.doc.text store.source
    return summary.recordWriteBack outcome
  else return summary

end MockCluster
