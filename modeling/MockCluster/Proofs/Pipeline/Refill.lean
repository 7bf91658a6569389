import MockCluster.Proofs.Pipeline.Growth
import MockCluster.Proofs.Views.Counts

/-!
A synthesis on its own output, at whatever time: it creates nothing, finds every view in line, and
never asks the calendar for a time.
-/

namespace MockCluster

section Filled

variable {settings : Settings} {doc : Document} (h : doc.Filled settings.synthesis)
  (now : Instant) (source : String)

include h

theorem Store.ensureServices_of_filled :
    (of source doc).ensureServices now settings.synthesis.serviceCount = (of source doc, []) := by
  have hnone : (of source doc).missingSynthetic settings.synthesis.serviceCount = [] :=
    Document.missingServices_eq_nil_iff.2 h.services
  rw [ensureServices, hnone]
  rfl

theorem Store.synthesizeTasks_of_filled :
    (of source doc).synthesizeTasks now settings.synthesis.taskServices = (of source doc, 0) := by
  have hnone : (of source doc).missingTasks settings.synthesis.taskServices = [] :=
    Document.missingTasks_of_hasSynthetic h.tasks
  rw [synthesizeTasks, hnone]
  rfl

theorem Store.synthesizeTasksWithin_of_filled :
    (of source doc).synthesizeTasksWithin now settings.synthesis.taskServices =
      .ok (of source doc, 0) := by
  have hnone : (of source doc).missingTasks settings.synthesis.taskServices = [] :=
    Document.missingTasks_of_hasSynthetic h.tasks
  rw [synthesizeTasksWithin, hnone, synthesizeTasks_of_filled h]
  rfl

theorem Store.synthesizeExtraTasks_of_filled :
    (of source doc).synthesizeExtraTasks now settings.synthesis.taskServices =
      (of source doc, 0) := by
  have hdoc : (of source doc).doc = doc := rfl
  rw [synthesizeExtraTasks, hdoc]
  cases hfirst : doc.placements.head? with
  | none => rfl
  | some first =>
      have hplacement : doc.HasPlacement := by
        by_contra hnone
        rw [Document.head?_placements_eq_none_iff.2 hnone] at hfirst
        cases hfirst
      have hnone : ((List.range' 1 settings.synthesis.taskServices).filter fun i =>
          !(of source doc).hasTask (Synthetic.extraTaskId i)) = [] :=
        Document.missingExtras_of_hasExtras (h.extras hplacement)
      simp only [hnone]
      rfl

/-- On a document that is filled in, the stages that fill it in leave even the summary alone. -/
theorem Stage.run_of_filled (stage : Stage) (hstage : stage ∈ Plan.fill) (summary : RunSummary) :
    stage.run settings now (Store.of source doc) summary = (Store.of source doc, summary) := by
  simp only [Plan.fill, List.mem_cons, List.not_mem_nil, or_false] at hstage
  rcases hstage with rfl | rfl | rfl
  · simp only [run, Store.ensureServices_of_filled h, List.append_nil]
  · simp only [run, Store.synthesizeTasks_of_filled h, Nat.add_zero]
  · simp only [run, Store.synthesizeExtraTasks_of_filled h, Nat.add_zero]

theorem Stage.runWithin_of_filled (stage : Stage) (summary : RunSummary) :
    stage.runWithin settings now (Store.of source doc) summary =
      .ok (stage.run settings now (Store.of source doc) summary) := by
  cases stage with
  | synthesizeTasks =>
      rw [runWithin, Store.synthesizeTasksWithin_of_filled h]
      rfl
  | ensureServices | synthesizeExtraTasks | repairReferences | dedupeTasks | syncViews => rfl

end Filled

theorem Stage.run_syncViews_of_synced {doc : Document} (h : doc.Synced) (settings : Settings)
    (now : Instant) (source : String) (summary : RunSummary) :
    Stage.syncViews.run settings now (Store.of source doc) summary =
      (Store.of source doc, { summary with views := some (Document.viewChanges doc doc) }) := by
  have hnone : doc.unlistedTasks = [] := Document.unlistedTasks_eq_nil_iff.2 h.refsListed
  have hdoc : (Store.of source doc).doc = doc := rfl
  simp only [run, hdoc, h.sync_eq, hnone, List.map_nil, List.append_nil]
  rfl

/-- A synthesis that is run on the output of an earlier one reaches its end whatever the time, and
returns that output with a summary of nothing: no service, no task, no reference that came or went,
no finding. -/
theorem second_synthesis_changes_nothing (settings : Settings) (now later : Instant)
    (source : String) (doc : Document) :
    let once := (Plan.synthesis.run settings now (Store.of source doc)).1
    Plan.synthesis.runWithin settings later once =
        .ok (Plan.synthesis.run settings later once) ∧
      Plan.synthesis.run settings later once =
        (once,
          { stages := Plan.synthesis, servicesCreated := [], tasksCreated := 0, findings := []
            views := some
              { backfilled := 0, nodeRefsAdded := 0, serviceRefsAdded := 0
                unassignedRefsAdded := 0, staleRefsRemoved := 0
                timelineEntries := once.doc.tasks.length } }) := by
  intro once
  let final := Plan.synthesis.effect settings now doc
  have honce : once = Store.of source final := Plan.fst_run_of settings now _ source doc
  have hfilled : final.Filled settings.synthesis :=
    Plan.filled_effect settings now [.syncViews] doc
  have hsynced : final.Synced := Document.synced_sync _
  have htimeline : final.timeline.length = final.tasks.length := by
    rw [hsynced.timeline, projectTimeline, List.length_map]
  have hensure := Stage.run_of_filled hfilled later source .ensureServices (by decide)
  have htasks := Stage.run_of_filled hfilled later source .synthesizeTasks (by decide)
  have hextras := Stage.run_of_filled hfilled later source .synthesizeExtraTasks (by decide)
  rw [honce]
  constructor
  · simp only [Plan.runWithin, Plan.run, Plan.synthesis, List.foldlM_cons, List.foldlM_nil,
      List.foldl_cons, List.foldl_nil, Stage.runWithin_of_filled hfilled, hensure, htasks,
      hextras, bind, pure, Except.bind, Except.pure]
  · simp only [Plan.run, Plan.synthesis, List.foldl_cons, List.foldl_nil, hensure, htasks,
      hextras, Stage.run_syncViews_of_synced hsynced, Document.viewChanges_self, htimeline]
    rfl

end MockCluster
