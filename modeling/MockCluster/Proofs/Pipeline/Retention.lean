import MockCluster.Proofs.Pipeline.Growth
import MockCluster.Proofs.Repair.Fits
import MockCluster.Proofs.Repair.Replacement

/-!
No run loses or reorders records: each has its successor in its place, and what may be different
about it is known from the stages of the plan.
-/

namespace MockCluster

open Document

namespace Document

theorem retained_insertAll (tasks : List Task) (doc : Document) :
    Retained .idle doc (doc.insertAll tasks) := by
  unfold insertAll
  split
  next => exact .refl doc
  next => exact { retained_insertTasks doc tasks with }

theorem retained_extraSynthesized (now : Instant) (services : Nat) (doc : Document) :
    Retained .idle doc (doc.extraSynthesized now services) := by
  unfold extraSynthesized
  split
  next => exact .refl doc
  next => exact retained_insertAll _ doc

theorem retained_addSynthetic (now : Instant) (numbers : List Nat) (doc : Document) :
    Retained .idle doc (doc.addSynthetic now numbers) := by
  have hkept := Retained.refl doc
  have hstacks : InPlace Substitution.idle.StackKept doc.stackRecords
      (doc.addSynthetic now numbers).stackRecords := by
    refine hkept.stackRecords.trans (Synthetic.inPlace_foldl_enterStack Synthetic.stackName
      (Synthetic.stackService (now.timestamp 0)) numbers doc.stackRecords) ?_
    rintro stack _ _ ⟨added, rfl⟩ ⟨entered, rfl⟩
    exact ⟨added ++ entered, by simp⟩
  exact
    { hkept with
      services := hkept.services.append _
      horizontal := hkept.horizontal.append _
      vertical := hkept.vertical.append _
      logServices := hkept.logServices.append _
      ports := hkept.ports.append _
      stackRecords := hstacks }

theorem retained_ensured (now : Instant) (count : Nat) (doc : Document) :
    Retained .idle doc (doc.ensured now count) := by
  rw [ensured_eq]
  exact retained_addSynthetic now _ doc

theorem retained_recorded (settings : RepairSettings) (doc : Document) :
    Retained .idle doc (doc.recorded settings) := by
  have hkept := Retained.refl doc
  unfold recorded
  split
  next => exact { hkept with services := hkept.services.append _ }
  next => exact hkept

theorem retained_renamed (settings : RepairSettings) (doc : Document) :
    Retained (.ofNodeIds (Renames.target doc.renames) settings.renamesInUntyped) doc
      (doc.renamed settings) := by
  rw [renamed_eq]
  exact retained_document _ doc

theorem retained_deduped (doc : Document) : Retained .idle doc doc.deduped := by
  have htasks : InPlace Substitution.idle.TaskKept doc.tasks doc.deduped.tasks := by
    refine (Retained.refl doc).tasks.trans (.of_forall₂ (Duplicates.forall₂_resolve _ _ _)) ?_
    rintro task _ _ ⟨id, rfl⟩ (rfl | ⟨_, _, rfl⟩)
    · exact ⟨_, rfl⟩
    · exact ⟨_, rfl⟩
  exact { Retained.refl doc with tasks := htasks }

end Document

section Records

variable (settings : Settings) (now : Instant)

/-- What becomes of node IDs in a stage: a repair replaces those that collide. -/
def Stage.nodeTarget (stage : Stage) (doc : Document) : String → String :=
  match stage with
  | .repairReferences => Renames.target (doc.backfill.recorded settings.repair).renames
  | .ensureServices | .synthesizeTasks | .synthesizeExtraTasks | .dedupeTasks | .syncViews => id

def Plan.nodeTarget : Plan → Document → String → String
  | [], _ => id
  | stage :: rest, doc =>
    Plan.nodeTarget rest (stage.effect settings now doc) ∘ stage.nodeTarget settings doc

theorem Stage.retained_effect (stage : Stage) (doc : Document) :
    Retained (.ofNodeIds (stage.nodeTarget settings doc) settings.repair.renamesInUntyped) doc
      (stage.effect settings now doc) := by
  cases stage with
  | repairReferences =>
      exact ((retained_backfill doc).trans (retained_recorded settings.repair _)).trans
        (retained_renamed settings.repair _)
  | ensureServices =>
      rw [nodeTarget, Substitution.ofNodeIds_id]
      exact retained_ensured now _ doc
  | synthesizeTasks =>
      rw [nodeTarget, Substitution.ofNodeIds_id]
      exact retained_insertAll _ doc
  | synthesizeExtraTasks =>
      rw [nodeTarget, Substitution.ofNodeIds_id]
      exact retained_extraSynthesized now _ doc
  | dedupeTasks =>
      rw [nodeTarget, Substitution.ofNodeIds_id]
      exact retained_deduped doc
  | syncViews =>
      rw [nodeTarget, Substitution.ofNodeIds_id]
      exact retained_sync doc

theorem Plan.retained_effect (plan : Plan) (doc : Document) :
    Retained (.ofNodeIds (plan.nodeTarget settings now doc) settings.repair.renamesInUntyped) doc
      (plan.effect settings now doc) := by
  induction plan generalizing doc with
  | nil =>
      rw [nodeTarget, Substitution.ofNodeIds_id]
      exact .refl doc
  | cons stage rest ih =>
      rw [nodeTarget, ← Substitution.comp_ofNodeIds]
      exact (stage.retained_effect settings now doc).trans (ih _)

theorem Plan.nodeTarget_of_not_mem {plan : Plan} (h : .repairReferences ∉ plan) (doc : Document) :
    plan.nodeTarget settings now doc = id := by
  induction plan generalizing doc with
  | nil => rfl
  | cons stage rest ih =>
      rw [List.mem_cons, not_or] at h
      have hstage : stage.nodeTarget settings doc = id := by
        cases stage with
        | repairReferences => exact absurd rfl h.1
        | ensureServices | synthesizeTasks | synthesizeExtraTasks | dedupeTasks | syncViews => rfl
      rw [nodeTarget, hstage, ih h.2]
      rfl

end Records

section TaskIds

variable (settings : Settings) (now : Instant)

/-- Where no task shares its ID with another one, no stage renames a task. -/
theorem Stage.taskIds_prefix_effect {stage : Stage} {doc : Document}
    (h : stage ≠ .dedupeTasks ∨ doc.DistinctTasks) :
    doc.taskIds <+: (stage.effect settings now doc).taskIds := by
  cases stage with
  | ensureServices =>
      change doc.taskIds <+: (doc.ensured now _).tasks.map Task.id
      rw [tasks_ensured]
      exact List.prefix_refl _
  | synthesizeTasks =>
      change doc.taskIds <+: (doc.insertAll _).taskIds
      rw [taskIds_insertAll]
      exact List.prefix_append _ _
  | synthesizeExtraTasks =>
      change doc.taskIds <+: (doc.extraSynthesized now _).taskIds
      unfold extraSynthesized
      split
      next => exact List.prefix_refl _
      next =>
        rw [taskIds_insertAll]
        exact List.prefix_append _ _
  | repairReferences =>
      change doc.taskIds <+: (doc.repaired settings.repair).taskIds
      rw [repaired, taskIds_renamed, taskIds, taskIds, tasks_recorded, ← taskIds, ← taskIds,
        taskIds_backfill]
      exact List.prefix_append _ _
  | dedupeTasks =>
      change doc.taskIds <+: doc.deduped.tasks.map Task.id
      rw [deduped_of_distinctTasks (h.resolve_left fun hne => hne rfl)]
      exact List.prefix_refl _
  | syncViews =>
      change doc.taskIds <+: doc.backfill.taskIds
      rw [taskIds_backfill]
      exact List.prefix_append _ _

theorem Plan.taskIds_prefix_effect {plan : Plan} {doc : Document}
    (h : .dedupeTasks ∉ plan ∨ doc.DistinctTasks) :
    doc.taskIds <+: (plan.effect settings now doc).taskIds := by
  induction plan generalizing doc with
  | nil => exact List.prefix_refl _
  | cons stage rest ih =>
      have hstage : stage ≠ .dedupeTasks ∨ doc.DistinctTasks :=
        h.imp_left fun habsent heq => habsent (heq ▸ List.mem_cons_self)
      have hrest : .dedupeTasks ∉ rest ∨ (stage.effect settings now doc).DistinctTasks :=
        h.imp (fun habsent hmem => habsent (List.mem_cons_of_mem _ hmem))
          (Stage.distinctTasks_effect settings now stage)
      exact (Stage.taskIds_prefix_effect settings now hstage).trans (ih hrest)

/-- What may become of the ID of a task: it stays, or it gets a suffix if duplicates are renamed. -/
def Plan.TaskIdKept (plan : Plan) (before after : String) : Prop :=
  after = before ∨ .dedupeTasks ∈ plan ∧ ∃ n > 0, after = Duplicates.candidate before n

/-- The first renaming of duplicates gives every task an ID of its own, so the later ones leave the
tasks alone and no ID gets two suffixes. -/
theorem Plan.taskIds_inPlace_effect (plan : Plan) (doc : Document) :
    InPlace plan.TaskIdKept doc.taskIds (plan.effect settings now doc).taskIds := by
  by_cases hdedupes : .dedupeTasks ∈ plan
  · obtain ⟨before, after, hplan, hbefore⟩ := List.eq_append_cons_of_mem hdedupes
    let reached := Plan.effect settings now before doc
    have hreached : InPlace Eq doc.taskIds reached.taskIds :=
      .of_initial (Plan.taskIds_prefix_effect settings now (.inl hbefore)) fun _ => rfl
    have hresolved : InPlace plan.TaskIdKept reached.taskIds reached.deduped.taskIds := by
      apply InPlace.of_forall₂
      refine List.forall₂_map_left_iff.2 (List.forall₂_map_right_iff.2 ?_)
      refine (Duplicates.forall₂_resolve _ _ _).imp ?_
      rintro task _ (rfl | ⟨n, hn, rfl⟩)
      · exact .inl rfl
      · exact .inr ⟨hdedupes, n, hn, rfl⟩
    have hlater : InPlace Eq reached.deduped.taskIds
        (Plan.effect settings now after reached.deduped).taskIds :=
      .of_initial (Plan.taskIds_prefix_effect settings now (.inr (distinctTasks_deduped reached)))
        fun _ => rfl
    have hfinal : Plan.effect settings now plan doc =
        Plan.effect settings now after reached.deduped := by
      rw [hplan, effect_append]
      rfl
    rw [hfinal]
    exact (hreached.trans hresolved (by rintro _ _ _ rfl h; exact h)).trans hlater
      (by rintro _ _ _ h rfl; exact h)
  · exact .of_initial (Plan.taskIds_prefix_effect settings now (.inl hdedupes)) fun _ => .inl rfl

end TaskIds

/-- After a run every record that was there is in its place with nothing but node IDs replaced, by
the repairs of the plan; tasks filed under a node or a service anew; and services entered behind
those of a stack.  A task has its ID, or its ID with a suffix if the plan renames duplicates. -/
theorem run_retains_records (plan : Plan) (settings : Settings) (now : Instant) (source : String)
    (doc : Document) :
    let after := (plan.run settings now (Store.of source doc)).1.doc
    let s := Substitution.ofNodeIds (plan.nodeTarget settings now doc)
      settings.repair.renamesInUntyped
    Retained s doc after ∧
      InPlace (fun task task' =>
        plan.TaskIdKept task.id task'.id ∧ task' = { s.task task with id := task'.id })
        doc.tasks after.tasks ∧
      after.untyped.keys = doc.untyped.keys ∧
      (.repairReferences ∉ plan → s = .idle) := by
  intro after s
  have hafter : after = plan.effect settings now doc :=
    congrArg Store.doc (plan.fst_run_of settings now source doc)
  have hretained : Retained s doc after := hafter ▸ plan.retained_effect settings now doc
  have hids : InPlace plan.TaskIdKept doc.taskIds after.taskIds :=
    hafter ▸ plan.taskIds_inPlace_effect settings now doc
  refine ⟨hretained, ?_, ?_, ?_⟩
  · intro i task htask
    obtain ⟨task', htask', id, rfl⟩ := hretained.tasks i task htask
    refine ⟨_, htask', ?_, rfl⟩
    obtain ⟨id', hid', hkept⟩ := hids i task.id (by rw [taskIds, List.getElem?_map, htask]; rfl)
    rw [taskIds, List.getElem?_map, htask', Option.map_some, Option.some.injEq] at hid'
    rwa [hid']
  · rw [hretained.untyped]
    change Members.keys (if _ then _ else _) = _
    split
    · exact Json.keys_visitMembers _ false doc.untyped
    · rfl
  · intro hrepairs
    change Substitution.ofNodeIds (plan.nodeTarget settings now doc) _ = _
    rw [Plan.nodeTarget_of_not_mem settings now hrepairs, Substitution.ofNodeIds_id]

end MockCluster
