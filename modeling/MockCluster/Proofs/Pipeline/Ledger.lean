import MockCluster.Proofs.Lists
import MockCluster.Proofs.Pipeline.Effect
import MockCluster.Proofs.Pipeline.Refill

/-!
What the summary of a run accounts for.

The services and tasks that stages create are summed up over a run, and its findings are collected.
Of the reports of the repairs and of the synchronisations it has the last one only, and so loses
what an earlier one has added.
-/

namespace MockCluster

variable {α : Type} (settings : Settings) (now : Instant)

namespace Stage

def repairReport? (stage : Stage) (store : Store) : Option RepairReport :=
  if stage = .repairReferences then some (store.repair settings.repair).2 else none

def viewStats? (stage : Stage) (doc : Document) : Option ViewStats :=
  if stage = .syncViews then some doc.syncStats else none

end Stage

namespace Plan

/-- The reports of all repairs of a run. -/
def repairReports (source : String) : Plan → Document → List RepairReport
  | [], _ => []
  | stage :: rest, doc =>
    (stage.repairReport? settings (Store.of source doc)).toList ++
      repairReports source rest (stage.effect settings now doc)

/-- What all synchronisations of a run have changed. -/
def viewStats : Plan → Document → List ViewStats
  | [], _ => []
  | stage :: rest, doc =>
    (stage.viewStats? doc).toList ++ viewStats rest (stage.effect settings now doc)

end Plan

/-- A summary keeps a report without its findings, which it collects itself. -/
def RepairReport.forgetFindings (report : RepairReport) : RepairReport :=
  { report with findings := [] }

/-- What a part of a run has put into the summary, set against what it has done to the document and
against the reports of its stages. -/
structure Ledger (reports : List RepairReport) (stats : List ViewStats)
    (before after : Document × RunSummary) : Prop where
  tasks : after.1.taskIds.length + before.2.tasksCreated =
    before.1.taskIds.length + after.2.tasksCreated +
      (reports.map RepairReport.backfilled).sum + (stats.map ViewStats.backfilled).sum
  services : after.1.serviceIds.length + before.2.servicesCreated.length =
    before.1.serviceIds.length + after.2.servicesCreated.length +
      (reports.map fun report => report.stubs.length).sum
  repair : after.2.repair =
    (reports.getLast?.map RepairReport.forgetFindings).or before.2.repair
  views : after.2.views = stats.getLast?.or before.2.views
  findings : before.2.findings ⊆ after.2.findings
  reported : ∀ report ∈ reports, report.findings ⊆ after.2.findings

namespace Ledger

theorem refl (state : Document × RunSummary) : Ledger [] [] state state where
  tasks := rfl
  services := rfl
  repair := rfl
  views := rfl
  findings := List.Subset.refl _
  reported := by simp

theorem trans {reports reports' : List RepairReport} {stats stats' : List ViewStats}
    {first second third : Document × RunSummary} (h : Ledger reports stats first second)
    (h' : Ledger reports' stats' second third) :
    Ledger (reports ++ reports') (stats ++ stats') first third where
  tasks := by
    have htasks := h.tasks
    have htasks' := h'.tasks
    simp only [List.map_append, List.sum_append]
    omega
  services := by
    have hservices := h.services
    have hservices' := h'.services
    simp only [List.map_append, List.sum_append]
    omega
  repair := by
    rw [h'.repair, h.repair, List.getLast?_append, Option.map_or, Option.or_assoc]
  views := by rw [h'.views, h.views, List.getLast?_append, Option.or_assoc]
  findings := List.Subset.trans h.findings h'.findings
  reported := by
    intro report hmem
    rcases List.mem_append.1 hmem with hmem | hmem
    · exact List.Subset.trans (h.reported report hmem) h'.findings
    · exact h'.reported report hmem

end Ledger

namespace Document

variable (doc : Document)

theorem length_serviceIds_ensured (source : String) (count : Nat) :
    (doc.ensured now count).serviceIds.length = doc.serviceIds.length +
      ((Store.of source doc).ensureServices now count).2.length := by
  rw [Store.snd_ensureServices_of, ensured_eq, serviceIds_addSynthetic, List.length_append]

theorem length_taskIds_deduped : doc.deduped.taskIds.length = doc.taskIds.length := by
  have hresolved := Duplicates.forall₂_resolve ∅ (IdSet.ofList doc.taskIds) doc.tasks
  rw [taskIds, taskIds, List.length_map, List.length_map]
  exact hresolved.length_eq.symm

theorem taskIds_repaired (settings : RepairSettings) :
    (doc.repaired settings).taskIds = doc.backfill.taskIds := by
  rw [repaired, taskIds_renamed, taskIds, tasks_recorded]
  rfl

theorem serviceIds_repaired (settings : RepairSettings) (source : String) :
    (doc.repaired settings).serviceIds =
      doc.serviceIds ++ ((Store.of source doc).repair settings).2.stubs := by
  have hservices := congrArg List.head?
    (serviceListings_renamed settings (doc.backfill.recorded settings))
  rw [Store.stubs_repair_of, repaired, show (renamed _ _).serviceIds = _ from
    Option.some.inj hservices, recorded]
  split
  · exact serviceIds_withStubs doc.backfill
  · rw [List.append_nil]
    rfl

end Document

theorem Ledger.of_insertAll {doc : Document} {summary : RunSummary} (tasks : List Task) :
    Ledger [] [] (doc, summary) (doc.insertAll tasks,
      { summary with tasksCreated := summary.tasksCreated + tasks.length }) where
  tasks := by
    simp only [Document.taskIds_insertAll, List.length_append, List.length_map, List.map_nil,
      List.sum_nil]
    omega
  services := by rw [(Document.sameListings_insertAll tasks doc).serviceIds_eq]; rfl
  repair := rfl
  views := rfl
  findings := List.Subset.refl _
  reported := by simp

theorem Stage.ledger_run (stage : Stage) (source : String) (doc : Document)
    (summary : RunSummary) :
    Ledger (stage.repairReport? settings (Store.of source doc)).toList
      (stage.viewStats? doc).toList (doc, summary)
      (stage.effect settings now doc,
        (stage.run settings now (Store.of source doc) summary).2) := by
  cases stage with
  | ensureServices =>
      refine ⟨?_, ?_, rfl, rfl, List.Subset.refl _, List.forall_mem_nil _⟩
      · simp only [effect, Document.taskIds, Document.tasks_ensured]
        rfl
      · have hcreated := doc.length_serviceIds_ensured now source settings.synthesis.serviceCount
        change (doc.ensured now _).serviceIds.length + summary.servicesCreated.length =
          doc.serviceIds.length + (summary.servicesCreated ++
            ((Store.of source doc).ensureServices now _).2).length + 0
        rw [hcreated, List.length_append]
        omega
  | synthesizeTasks =>
      exact .of_insertAll ((doc.missingTasks settings.synthesis.taskServices).map
        (doc.rotatedTask now))
  | synthesizeExtraTasks =>
      change Ledger [] [] (doc, summary) (doc.extraSynthesized now _,
        { summary with
          tasksCreated := summary.tasksCreated +
            ((Store.of source doc).synthesizeExtraTasks now settings.synthesis.taskServices).2 })
      unfold Document.extraSynthesized Store.synthesizeExtraTasks
      have hdoc : (Store.of source doc).doc = doc := rfl
      rw [hdoc]
      cases doc.placements.head? with
      | none => exact .of_insertAll []
      | some first =>
          exact .of_insertAll ((doc.missingExtras settings.synthesis.taskServices).map
            (doc.extraTask now first))
  | repairReferences =>
      refine ⟨?_, ?_, rfl, rfl, List.subset_append_left _ _, ?_⟩
      · change (doc.repaired settings.repair).taskIds.length + summary.tasksCreated =
          doc.taskIds.length + summary.tasksCreated + doc.unlistedTasks.length + 0
        rw [doc.taskIds_repaired, doc.taskIds_backfill, List.length_append, List.length_map]
        omega
      · change (doc.repaired settings.repair).serviceIds.length + summary.servicesCreated.length =
          doc.serviceIds.length + summary.servicesCreated.length +
            ((Store.of source doc).repair settings.repair).2.stubs.length
        rw [doc.serviceIds_repaired settings.repair source, List.length_append]
        omega
      · intro report hmem
        cases List.mem_singleton.1 hmem
        exact List.subset_append_right _ _
  | dedupeTasks =>
      have hdedupe := Document.dedupe_of source doc
      refine ⟨?_, rfl, rfl, rfl, List.subset_append_left _ _, List.forall_mem_nil _⟩
      change doc.deduped.taskIds.length + summary.tasksCreated =
        doc.taskIds.length + summary.tasksCreated
      rw [doc.length_taskIds_deduped]
  | syncViews =>
      refine ⟨?_, ?_, rfl, rfl, List.subset_append_left _ _, List.forall_mem_nil _⟩
      · change doc.sync.taskIds.length + summary.tasksCreated =
          doc.taskIds.length + summary.tasksCreated + 0 +
            (doc.sync.tasks.length - doc.tasks.length)
        rw [Document.taskIds, Document.taskIds, List.length_map, List.length_map,
          Document.tasks_sync, List.length_append]
        omega
      · have hservices := (Document.sameListings_sync doc).serviceIds_eq
        change doc.sync.serviceIds.length + summary.servicesCreated.length =
          doc.serviceIds.length + summary.servicesCreated.length + 0
        rw [hservices]
        rfl

theorem Plan.ledger_runFrom (plan : Plan) (source : String) (doc : Document)
    (summary : RunSummary) :
    Ledger (plan.repairReports settings now source doc) (plan.viewStats settings now doc)
      (doc, summary)
      (plan.effect settings now doc,
        (plan.runFrom settings now (Store.of source doc, summary)).2) := by
  induction plan generalizing doc summary with
  | nil => exact Ledger.refl _
  | cons stage rest ih =>
      refine (stage.ledger_run settings now source doc summary).trans ?_
      have hstage := stage.fst_run_of settings now source doc summary
      change Ledger _ _ _ (Plan.effect settings now rest (stage.effect settings now doc),
        (Plan.runFrom settings now rest
          (stage.run settings now (Store.of source doc) summary)).2)
      rw [← Prod.eta (stage.run settings now (Store.of source doc) summary), hstage]
      exact ih _ _

theorem Plan.length_repairReports (source : String) (plan : Plan) (doc : Document) :
    (plan.repairReports settings now source doc).length = plan.count .repairReferences := by
  induction plan generalizing doc with
  | nil => rfl
  | cons stage rest ih =>
      rw [repairReports, List.length_append, ih, List.count_cons, Nat.add_comm]
      cases stage <;> rfl

theorem Plan.length_viewStats (plan : Plan) (doc : Document) :
    (plan.viewStats settings now doc).length = plan.count .syncViews := by
  induction plan generalizing doc with
  | nil => rfl
  | cons stage rest ih =>
      rw [viewStats, List.length_append, ih, List.count_cons, Nat.add_comm]
      cases stage <;> rfl

theorem Plan.exists_of_mem_repairReports {settings : Settings} {now : Instant} {source : String}
    {plan : Plan} {doc : Document} {report : RepairReport}
    (hmem : report ∈ plan.repairReports settings now source doc) :
    ∃ store : Store, report = (store.repair settings.repair).2 := by
  induction plan generalizing doc with
  | nil => cases hmem
  | cons stage rest ih =>
      rw [repairReports, List.mem_append] at hmem
      rcases hmem with hmem | hmem
      · unfold Stage.repairReport? at hmem
        split at hmem
        next => exact ⟨_, List.mem_singleton.1 hmem⟩
        next => cases hmem
      · exact ih hmem

theorem Store.exists_collision_mem_findings {store : Store} {settings : RepairSettings}
    {rename : Rename} (hmem : rename ∈ (store.repair settings).2.collisions) :
    ∃ positions, Finding.collision rename positions ∈ (store.repair settings).2.findings := by
  obtain ⟨positions, hfindings⟩ : ∃ positions : Rename → Nat,
      (store.repair settings).2.collisions.map
        (fun rename => Finding.collision rename (positions rename)) ⊆
        (store.repair settings).2.findings :=
    ⟨_, fun _ hfinding => List.mem_append_left _ (List.mem_append_right _ hfinding)⟩
  exact ⟨positions rename, hfindings (List.mem_map_of_mem hmem)⟩

/-- The tasks and services of a document that a run leaves are those it started from, those that
synthesis has created, and those that all repairs and synchronisations have added.  The summary
tells them all exactly if none but the last repair and the last synchronisation has added any; a
plan with one of each has no other.  Every collision is told in the findings. -/
theorem summary_accounts (plan : Plan) (source : String) (doc : Document) :
    let outcome := plan.run settings now (Store.of source doc)
    let summary := outcome.2
    let reports := plan.repairReports settings now source doc
    let stats := plan.viewStats settings now doc
    summary.repair = reports.getLast?.map RepairReport.forgetFindings ∧
      summary.views = stats.getLast? ∧
      reports.length = plan.count .repairReferences ∧ stats.length = plan.count .syncViews ∧
      outcome.1.doc.tasks.length = doc.tasks.length + summary.tasksCreated +
        (reports.map RepairReport.backfilled).sum + (stats.map ViewStats.backfilled).sum ∧
      outcome.1.doc.services.length = doc.services.length + summary.servicesCreated.length +
        (reports.map fun report => report.stubs.length).sum ∧
      (outcome.1.doc.tasks.length = doc.tasks.length + summary.tasksCreated +
          (summary.repair.map RepairReport.backfilled).getD 0 +
          (summary.views.map ViewStats.backfilled).getD 0 ↔
        (∀ report ∈ reports.dropLast, report.backfilled = 0) ∧
          ∀ changes ∈ stats.dropLast, changes.backfilled = 0) ∧
      (outcome.1.doc.services.length = doc.services.length + summary.servicesCreated.length +
          (summary.repair.map fun report => report.stubs.length).getD 0 ↔
        ∀ report ∈ reports.dropLast, report.stubs = []) ∧
      ∀ report ∈ reports, ∀ rename ∈ report.collisions,
        ∃ positions : Nat,
          { subject := rename.old
            code := .collisionDetected
            text := "Node ID '" ++ rename.old ++ "' is also a service ID; node renamed to '" ++
              rename.new ++ "'"
            context := [toString positions ++ " node-ID position(s) rewritten"] } ∈
            summary.findings := by
  intro outcome summary reports stats
  have hledger := plan.ledger_runFrom settings now source doc { stages := plan }
  have hdoc : outcome.1.doc = plan.effect settings now doc :=
    congrArg Store.doc (plan.fst_run_of settings now source doc)
  have hrepair : summary.repair = reports.getLast?.map RepairReport.forgetFindings :=
    hledger.repair.trans (Option.or_none)
  have hviews : summary.views = stats.getLast? := hledger.views.trans (Option.or_none)
  have htasks : outcome.1.doc.tasks.length = doc.tasks.length + summary.tasksCreated +
      (reports.map RepairReport.backfilled).sum + (stats.map ViewStats.backfilled).sum := by
    have htotal := hledger.tasks
    rw [Document.taskIds, Document.taskIds, List.length_map, List.length_map, ← hdoc] at htotal
    exact htotal
  have hservices : outcome.1.doc.services.length = doc.services.length +
      summary.servicesCreated.length + (reports.map fun report => report.stubs.length).sum := by
    have htotal := hledger.services
    rw [Document.serviceIds, Document.serviceIds, List.length_map, List.length_map, ← hdoc]
      at htotal
    exact htotal
  refine ⟨hrepair, hviews, plan.length_repairReports settings now source doc,
    plan.length_viewStats settings now doc, htasks, hservices, ?_, ?_, ?_⟩
  · have hreports := sum_map_eq_last_add RepairReport.backfilled reports
    have hstats := sum_map_eq_last_add ViewStats.backfilled stats
    rw [← sum_map_eq_zero_iff, ← sum_map_eq_zero_iff, hrepair, hviews, Option.map_map]
    change _ = _ + (reports.getLast?.map RepairReport.backfilled).getD 0 + _ ↔ _
    omega
  · have hreports := sum_map_eq_last_add (fun report => report.stubs.length) reports
    simp only [← List.length_eq_zero_iff]
    rw [← sum_map_eq_zero_iff fun report : RepairReport => report.stubs.length, hrepair,
      Option.map_map]
    change _ = _ + (reports.getLast?.map fun report => report.stubs.length).getD 0 ↔ _
    omega
  · intro report hreport rename hmem
    obtain ⟨store, rfl⟩ := Plan.exists_of_mem_repairReports hreport
    obtain ⟨positions, hfinding⟩ := Store.exists_collision_mem_findings hmem
    exact ⟨positions, hledger.reported _ hreport hfinding⟩

/-- A reference to a task that is not listed. -/
def strayRef : Document where
  horizontal := { unassigned := [{ id := "t" }] }

theorem length_tasks_sync_strayRef : strayRef.sync.tasks.length = 1 := by
  have hsublist : List.Sublist strayRef.unlistedTasks [Task.ofRef { id := "t" } none none] :=
    Document.firstUnknown_sublist _ _
  have hunlisted : strayRef.unlistedTasks ≠ [] := by
    rw [Ne, Document.unlistedTasks_eq_nil_iff]
    intro hlisted
    exact List.not_mem_nil (hlisted { id := "t" } (List.mem_singleton_self _) (by decide))
  have hle : strayRef.unlistedTasks.length ≤ 1 := hsublist.length_le
  have hpos := List.length_pos_iff.2 hunlisted
  rw [Document.tasks_sync, List.length_append]
  change 0 + _ = 1
  omega

/-- The first synchronisation lists the task, and the summary has what the second one did. -/
theorem summary_misses_backfilled_task :
    let plan : Plan := [.syncViews, .syncViews]
    let outcome := plan.run .standard ⟨0, 0⟩ (Store.of "doc.json" strayRef)
    plan.check = .ok () ∧ outcome.1.doc.tasks.length = 1 ∧
      strayRef.tasks.length + outcome.2.tasksCreated +
        (outcome.2.repair.map RepairReport.backfilled).getD 0 +
        (outcome.2.views.map ViewStats.backfilled).getD 0 = 0 := by
  intro plan outcome
  have hdoc : outcome.1.doc = strayRef.sync.sync :=
    congrArg Store.doc (plan.fst_run_of .standard ⟨0, 0⟩ "doc.json" strayRef)
  have hviews : outcome.2.views = some (Document.viewChanges strayRef.sync strayRef.sync.sync) :=
    rfl
  refine ⟨by decide, ?_, ?_⟩
  · rw [hdoc, Document.sync_sync]
    exact length_tasks_sync_strayRef
  · rw [hviews, Document.sync_sync, Document.viewChanges_self]
    rfl

end MockCluster
