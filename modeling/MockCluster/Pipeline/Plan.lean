/-!
Stages, what they read and write, and which sequences of them may run.

A plan may not read what no stage has provided, and may not end with a derived view out of date.
-/

namespace MockCluster

inductive Artifact where
  | nodes
  | services
  /-- The numbered services; a document never comes with them. -/
  | syntheticServices
  | tasks
  | views
  | timeline
  deriving DecidableEq, Repr

namespace Artifact

def name : Artifact → String
  | .nodes => "Nodes"
  | .services => "Services"
  | .syntheticServices => "SyntheticServices"
  | .tasks => "Tasks"
  | .views => "Views"
  | .timeline => "Timeline"

def loaded : List Artifact := [.nodes, .services, .tasks, .views, .timeline]

def derived : List Artifact := [.views, .timeline]

end Artifact

inductive Stage where
  | ensureServices
  | synthesizeTasks
  | synthesizeExtraTasks
  | repairReferences
  | dedupeTasks
  | syncViews
  deriving DecidableEq, Repr

namespace Stage

def all : List Stage :=
  [.ensureServices, .synthesizeTasks, .synthesizeExtraTasks, .repairReferences, .dedupeTasks,
    .syncViews]

def name : Stage → String
  | .ensureServices => "EnsureServices"
  | .synthesizeTasks => "SynthesizeTasks"
  | .synthesizeExtraTasks => "SynthesizeExtraTasks"
  | .repairReferences => "RepairReferences"
  | .dedupeTasks => "DedupeTasks"
  | .syncViews => "SyncViews"

def label : Stage → String
  | .ensureServices => "ensure-services"
  | .synthesizeTasks => "synthesize-tasks"
  | .synthesizeExtraTasks => "synthesize-extra-tasks"
  | .repairReferences => "repair-references"
  | .dedupeTasks => "dedupe-tasks"
  | .syncViews => "sync-views"

def reads : Stage → List Artifact
  | .ensureServices => [.services]
  | .synthesizeTasks | .synthesizeExtraTasks => [.nodes, .syntheticServices, .tasks]
  | .repairReferences => [.nodes, .services, .tasks]
  | .dedupeTasks => [.tasks]
  | .syncViews => [.tasks, .views]

def writes : Stage → List Artifact
  | .ensureServices => [.services, .syntheticServices, .views]
  | .synthesizeTasks | .synthesizeExtraTasks => [.tasks, .views, .timeline]
  | .repairReferences => [.nodes, .services, .tasks, .views]
  | .dedupeTasks => [.tasks]
  | .syncViews => [.tasks, .views, .timeline]

def staleAfter (stage : Stage) (stale : List Artifact) : List Artifact :=
  Artifact.derived.filter fun artifact =>
    artifact ∉ stage.writes && (.tasks ∈ stage.writes || artifact ∈ stale)

end Stage

inductive PlanFault where
  | unavailable (stage : Stage) (artifact : Artifact)
  | outOfDate (artifacts : List Artifact)
  deriving DecidableEq, Repr

def PlanFault.message : PlanFault → String
  | .unavailable stage artifact =>
    "stage " ++ stage.label ++ " reads " ++ artifact.name ++ " before any stage produces it"
  | .outOfDate artifacts =>
    "plan ends with " ++ " and ".intercalate (artifacts.map Artifact.name) ++
      " out of date; finish with " ++ Stage.syncViews.label

abbrev Plan := List Stage

namespace Plan

def synthesis : Plan := [.ensureServices, .synthesizeTasks, .synthesizeExtraTasks, .syncViews]

def repair : Plan := [.repairReferences, .dedupeTasks, .syncViews]

def full : Plan :=
  [.ensureServices, .synthesizeTasks, .synthesizeExtraTasks, .repairReferences, .dedupeTasks,
    .syncViews]

/-- Checks the stages one by one, given what is available and what is out of date. -/
def checkFrom (available stale : List Artifact) : Plan → Except PlanFault Unit
  | [] => if stale.isEmpty then .ok () else .error (.outOfDate stale)
  | stage :: rest =>
    match stage.reads.find? (· ∉ available) with
    | some missing => .error (.unavailable stage missing)
    | none => checkFrom (available ++ stage.writes) (stage.staleAfter stale) rest

def check (plan : Plan) : Except PlanFault Unit := plan.checkFrom Artifact.loaded []

end Plan

end MockCluster
