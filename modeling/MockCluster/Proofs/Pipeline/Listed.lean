import MockCluster.Proofs.Pipeline.Closure
import MockCluster.Proofs.Pipeline.Convergence
import MockCluster.Proofs.Pipeline.Ledger

/-!
Once every filed reference belongs to a listed task, this stays so whatever stages are run.  A repair
lists the tasks that only groupings know before it validates anything, and so no stage behind it has
any to add.
-/

namespace MockCluster

open Document

namespace Document

variable {doc : Document}

theorem mem_filedRefs_insertTask {task : Task} {ref : TaskRef}
    (hmem : ref ∈ (doc.insertTask task).filedRefs) : ref ∈ doc.filedRefs ∨ ref.id = task.id := by
  rw [mem_filedRefs] at hmem ⊢
  rcases hmem with hgrouped | hunassigned
  · exact (mem_groupedRefs_insertTask hgrouped).imp .inl fun heq => congrArg TaskRef.id heq
  · exact (mem_unassigned_insertTask hunassigned).imp_left .inr

namespace RefsListed

variable (h : doc.RefsListed)

include h

theorem ensured (now : Instant) (count : Nat) : (doc.ensured now count).RefsListed := by
  intro ref hmem hne
  rw [ensured_eq, mem_filedRefs, groupedRefs_addSynthetic] at hmem
  rw [taskIds, tasks_ensured]
  exact h ref (mem_filedRefs.2 hmem) hne

theorem insertTask (task : Task) : (doc.insertTask task).RefsListed := by
  intro ref hmem hne
  rw [taskIds_insertTask, List.mem_append, List.mem_singleton]
  exact (mem_filedRefs_insertTask hmem).imp_left fun hold => h ref hold hne

theorem insertAll (tasks : List Task) : (doc.insertAll tasks).RefsListed := by
  have hfold : (tasks.foldl Document.insertTask doc).RefsListed := by
    induction tasks generalizing doc with
    | nil => exact h
    | cons task rest ih => exact ih (h.insertTask task)
  unfold Document.insertAll
  split
  next => exact h
  next => exact hfold

end RefsListed

end Document

section Stages

variable (settings : Settings) (now : Instant)

/-- A repair and a synchronisation list what is missing, and every other stage files references to
tasks that it lists. -/
theorem Stage.refsListed_effect (stage : Stage) {doc : Document}
    (h : doc.RefsListed ∨ stage = .repairReferences ∨ stage = .syncViews) :
    (stage.effect settings now doc).RefsListed := by
  cases stage with
  | ensureServices => exact (h.resolve_right (by decide)).ensured now _
  | synthesizeTasks => exact (h.resolve_right (by decide)).insertAll _
  | synthesizeExtraTasks =>
      have hlisted := h.resolve_right (by decide)
      change (doc.extraSynthesized now _).RefsListed
      unfold extraSynthesized
      split
      next => exact hlisted
      next => exact hlisted.insertAll _
  | repairReferences => exact (settled_repaired settings.repair doc).refsListed
  | dedupeTasks => exact refsListed_deduped (h.resolve_right (by decide))
  | syncViews => exact refsListed_sync doc

theorem Plan.refsListed_effect (plan : Plan) {doc : Document} (h : doc.RefsListed) :
    (plan.effect settings now doc).RefsListed := by
  induction plan generalizing doc with
  | nil => exact h
  | cons stage rest ih => exact ih (stage.refsListed_effect settings now (.inl h))

theorem Plan.refsListed_effect_of_mem {plan : Plan} (hmem : .repairReferences ∈ plan)
    (doc : Document) : (plan.effect settings now doc).RefsListed := by
  obtain ⟨before, after, rfl⟩ := List.append_of_mem hmem
  rw [effect_append]
  apply refsListed_effect settings now after
  exact Stage.refsListed_effect settings now .repairReferences (.inr (.inl rfl))

end Stages

theorem Document.backfilled_syncStats {doc : Document} (h : doc.RefsListed) :
    doc.syncStats.backfilled = 0 := by
  change doc.sync.tasks.length - doc.tasks.length = 0
  rw [tasks_sync_of_refsListed h, Nat.sub_self]

theorem Plan.backfilled_viewStats (settings : Settings) (now : Instant) (plan : Plan)
    {doc : Document} (h : doc.RefsListed) :
    ∀ changes ∈ plan.viewStats settings now doc, changes.backfilled = 0 := by
  induction plan generalizing doc with
  | nil => exact List.forall_mem_nil _
  | cons stage rest ih =>
      intro changes hmem
      rw [viewStats, List.mem_append, Option.mem_toList, Stage.viewStats?] at hmem
      rcases hmem with hmem | hmem
      · split at hmem
        · cases hmem
          exact backfilled_syncStats h
        · cases hmem
      · exact ih (stage.refsListed_effect settings now (.inl h)) changes hmem

/-- What a run lists in time: the tasks it ends with are those whose references are validated, up to
the renames of duplicates, and the last synchronisation finds no reference to any other. -/
structure ListedInTime (validated unsynced : Document) (outcome : Store × RunSummary) : Prop where
  backfilled : outcome.2.views.map ViewStats.backfilled = some 0
  listed : ∀ ref ∈ unsynced.filedRefs, ref.id ≠ "" → ref.id ∈ unsynced.taskIds
  kept : outcome.1.doc.tasks = unsynced.tasks
  renamed : List.Forall₂ (Duplicates.RenamedBy outcome.2.duplicatesRenamed) validated.tasks
    outcome.1.doc.tasks

section Runs

variable (settings : Settings) (now : Instant) (source : String) (doc : Document)

theorem listedInTime_run (before : Plan) :
    let reached (plan : Plan) := (plan.run settings now (Store.of source doc)).1.doc
    ListedInTime (reached (before ++ [.repairReferences]))
      (reached (before ++ [.repairReferences, .dedupeTasks]))
      (Plan.run (before ++ Plan.repair) settings now (Store.of source doc)) := by
  intro reached
  let start : Store × RunSummary := (Store.of source doc, { stages := before ++ Plan.repair })
  let base := before.effect settings now doc
  let validated := base.repaired settings.repair
  have hreached : ∀ plan : Plan, reached plan = plan.effect settings now doc := fun plan =>
    congrArg Store.doc (plan.fst_run_of settings now source doc)
  have hvalidated : reached (before ++ [.repairReferences]) = validated := by
    rw [hreached, Plan.effect_append]
    rfl
  have hunsynced : reached (before ++ [.repairReferences, .dedupeTasks]) = validated.deduped := by
    rw [hreached, Plan.effect_append]
    rfl
  have hfinal : reached (before ++ Plan.repair) = validated.deduped.sync := by
    rw [hreached, Plan.effect_append]
    rfl
  have hrun : Plan.run (before ++ Plan.repair) settings now (Store.of source doc) =
      Plan.repair.runFrom settings now
        (Store.of source base, (before.runFrom settings now start).2) := by
    have hstore : (before.runFrom settings now start).1 = Store.of source base :=
      before.fst_runFrom_of settings now source doc _
    rw [← hstore]
    exact Plan.runFrom_append settings now before Plan.repair start
  obtain ⟨_, hduplicates, hviews⟩ := Plan.snd_runFrom_repair settings now source base
    (before.runFrom settings now start).2
  have hlisted : validated.deduped.RefsListed :=
    refsListed_deduped (settled_repaired settings.repair base).refsListed
  have hkept : validated.deduped.sync.tasks = validated.deduped.tasks := by
    rw [tasks_sync, unlistedTasks_eq_nil_iff.2 hlisted, List.append_nil]
  rw [hvalidated, hunsynced]
  refine ⟨?_, hlisted, (congrArg Document.tasks hfinal).trans hkept, ?_⟩
  · rw [hrun, hviews, Option.map_some]
    exact congrArg some (backfilled_syncStats hlisted)
  · change List.Forall₂ _ _ (reached (before ++ Plan.repair)).tasks
    rw [hfinal, hkept, hrun, hduplicates]
    exact (Duplicates.forall₂_renamedBy _ _ _).imp fun _ _ =>
      .mono (List.subset_append_right _ _)

/-- A repair lists every task before it validates: what the synchronisation at the end of the run
finds in groupings has been listed by then, with or without a synthesis in front.  This is so of
every synchronisation that follows a repair, whatever the stages in between. -/
theorem no_task_joins_behind_validation :
    let start := Store.of source doc
    let reached (plan : Plan) := (plan.run settings now start).1.doc
    ListedInTime (reached [.repairReferences]) (reached [.repairReferences, .dedupeTasks])
        (Plan.repair.run settings now start) ∧
      ListedInTime (reached (Plan.fill ++ [.repairReferences]))
        (reached (Plan.fill ++ [.repairReferences, .dedupeTasks]))
        (Plan.full.run settings now start) ∧
      ∀ before after : Plan,
        ∀ changes ∈ after.viewStats settings now (reached (before ++ [.repairReferences])),
          changes.backfilled = 0 := by
  intro start reached
  refine ⟨listedInTime_run settings now source doc [],
    listedInTime_run settings now source doc Plan.fill, fun before after => ?_⟩
  apply after.backfilled_viewStats settings now
  have hreached : reached (before ++ [.repairReferences]) =
      Plan.effect settings now (before ++ [.repairReferences]) doc :=
    congrArg Store.doc (Plan.fst_run_of settings now _ source doc)
  rw [hreached]
  exact Plan.refsListed_effect_of_mem settings now (by simp) doc

end Runs

end MockCluster
