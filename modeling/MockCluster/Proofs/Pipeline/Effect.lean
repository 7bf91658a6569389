import MockCluster.Pipeline.Run
import MockCluster.Proofs.Repair.Duplicates
import MockCluster.Proofs.Repair.Settled
import MockCluster.Proofs.Synthesis.Services
import MockCluster.Proofs.Synthesis.Tasks

/-!
The effect of a stage on the document alone.

Every stage leaves the index as fresh as it found it, so a run that starts from a loaded document is
its stages' effects one after another.
-/

namespace MockCluster

variable (settings : Settings) (now : Instant)

def Stage.effect (stage : Stage) (doc : Document) : Document :=
  match stage with
  | .ensureServices => doc.ensured now settings.synthesis.serviceCount
  | .synthesizeTasks => doc.synthesized now settings.synthesis.taskServices
  | .synthesizeExtraTasks => doc.extraSynthesized now settings.synthesis.taskServices
  | .repairReferences => doc.repaired settings.repair
  | .dedupeTasks => doc.deduped
  | .syncViews => doc.sync

def Plan.effect (plan : Plan) (doc : Document) : Document :=
  plan.foldl (fun doc stage => stage.effect settings now doc) doc

theorem Stage.fst_run_of (stage : Stage) (source : String) (doc : Document)
    (summary : RunSummary) :
    (stage.run settings now (Store.of source doc) summary).1 =
      Store.of source (stage.effect settings now doc) := by
  cases stage with
  | ensureServices => exact Store.fst_ensureServices_of source doc now _
  | synthesizeTasks => exact Store.fst_synthesizeTasks_of source doc now _
  | synthesizeExtraTasks => exact Store.fst_synthesizeExtraTasks_of source doc now _
  | repairReferences => exact Store.fst_repair_of source doc settings.repair
  | dedupeTasks =>
      simp only [run, Document.dedupe_of]
      rfl
  | syncViews => rfl

namespace Plan

def runFrom (plan : Plan) (state : Store × RunSummary) : Store × RunSummary :=
  plan.foldl (fun (store, summary) stage => stage.run settings now store summary) state

theorem runFrom_append (first second : Plan) (state : Store × RunSummary) :
    Plan.runFrom settings now (first ++ second) state =
      second.runFrom settings now (first.runFrom settings now state) :=
  List.foldl_append

theorem effect_append (first second : Plan) (doc : Document) :
    Plan.effect settings now (first ++ second) doc =
      second.effect settings now (first.effect settings now doc) :=
  List.foldl_append

/-- What holds between a document and its image under a stage, and may be chained, holds between a
document and its image under a plan. -/
theorem rel_effect {r : Document → Document → Prop} (hrefl : ∀ doc, r doc doc)
    (htrans : ∀ {first second third : Document}, r first second → r second third → r first third)
    (hstage : ∀ (stage : Stage) (doc : Document), r doc (stage.effect settings now doc))
    (plan : Plan) (doc : Document) : r doc (plan.effect settings now doc) := by
  induction plan generalizing doc with
  | nil => exact hrefl doc
  | cons stage rest ih => exact htrans (hstage stage doc) (ih _)

theorem fst_runFrom_of (plan : Plan) (source : String) (doc : Document) (summary : RunSummary) :
    (plan.runFrom settings now (Store.of source doc, summary)).1 =
      Store.of source (plan.effect settings now doc) := by
  induction plan generalizing doc summary with
  | nil => rfl
  | cons stage rest ih =>
      have hstage := stage.fst_run_of settings now source doc summary
      change (Plan.runFrom settings now rest
        (stage.run settings now (Store.of source doc) summary)).1 = _
      generalize stage.run settings now (Store.of source doc) summary = state at hstage ⊢
      obtain ⟨store, summary⟩ := state
      cases hstage
      exact ih _ summary

theorem fst_run_of (plan : Plan) (source : String) (doc : Document) :
    (plan.run settings now (Store.of source doc)).1 =
      Store.of source (plan.effect settings now doc) :=
  plan.fst_runFrom_of settings now source doc _

end Plan

end MockCluster
