import Mathlib.Data.List.Induction
import MockCluster.Proofs.Pipeline.Growth

/-!
Which plans keep the views of a document up to date.

The synthesis of tasks files what it adds, and a synchronisation brings everything in line.  A
repair may put views out of date at any time.  So may the first stage that ensures services, which
gives the vertical dashboard empty groupings, and the first that renames duplicates; later ones find
nothing to do.
-/

namespace MockCluster

open Document

namespace Plan

/-- A stage that may put views out of date stands behind the last synchronisation. -/
def LeavesStale (plan : Plan) : Prop :=
  ∃ (before : Plan) (stage : Stage) (after : Plan), plan = before ++ stage :: after ∧
    .syncViews ∉ after ∧
      (stage = .repairReferences ∨
        (stage = .ensureServices ∨ stage = .dedupeTasks) ∧ stage ∉ before)

theorem leavesStale_concat {plan : Plan} {stage : Stage} :
    LeavesStale (plan ++ [stage]) ↔
      stage ≠ .syncViews ∧ LeavesStale plan ∨ stage = .repairReferences ∨
        (stage = .ensureServices ∨ stage = .dedupeTasks) ∧ stage ∉ plan := by
  constructor
  · intro hgiven
    obtain ⟨before, culprit, after, hplan, hsync, hculprit⟩ := hgiven
    rcases List.eq_nil_or_concat after with rfl | ⟨rest, last, rfl⟩
    · obtain ⟨rfl, hlast⟩ := List.append_inj' hplan rfl
      cases hlast
      exact .inr hculprit
    · have hsplit : plan ++ [stage] = (before ++ culprit :: rest) ++ [last] := by
        rw [hplan]
        simp
      obtain ⟨rfl, hlast⟩ := List.append_inj' hsplit rfl
      cases hlast
      simp only [List.concat_eq_append, List.mem_append, List.mem_singleton, not_or] at hsync
      exact .inl ⟨Ne.symm hsync.2, before, culprit, rest, rfl, hsync.1, hculprit⟩
  · intro hgiven
    rcases hgiven with ⟨hstage, before, culprit, after, rfl, hsync, hculprit⟩ | hculprit
    · refine ⟨before, culprit, after ++ [stage], by simp, ?_, hculprit⟩
      simp [hsync, Ne.symm hstage]
    · exact ⟨plan, stage, [], rfl, List.not_mem_nil, hculprit⟩

end Plan

variable (settings : Settings) (now : Instant)

theorem Stage.ensured_effect (stage : Stage) {doc : Document}
    (h : doc.Ensured settings.synthesis.serviceCount) :
    (stage.effect settings now doc).Ensured settings.synthesis.serviceCount :=
  Plan.ensured_effect settings now [stage] h

/-- What is known of a document after a plan has been run on a synchronised one. -/
structure Plan.Maintained (plan : Plan) (doc : Document) : Prop where
  ensured : .ensureServices ∈ plan → doc.Ensured settings.synthesis.serviceCount
  distinct : .dedupeTasks ∈ plan → doc.DistinctTasks
  synced : ¬ plan.LeavesStale → doc.Synced

/-- One more stage: it leaves the views out of date only if it is one that may. -/
theorem Plan.Maintained.effect {plan : Plan} {doc : Document} (h : plan.Maintained settings doc)
    (stage : Stage) :
    Plan.Maintained settings (plan ++ [stage]) (stage.effect settings now doc) where
  ensured := by
    intro hmem
    rcases List.mem_append.1 hmem with hmem | hmem
    · exact stage.ensured_effect settings now (h.ensured hmem)
    · cases List.mem_singleton.1 hmem
      exact ensured_ensured now _ doc
  distinct := by
    intro hmem
    rcases List.mem_append.1 hmem with hmem | hmem
    · exact stage.distinctTasks_effect settings now (h.distinct hmem)
    · cases List.mem_singleton.1 hmem
      exact distinctTasks_deduped doc
  synced := by
    intro hkept
    rw [leavesStale_concat, not_or, not_or, not_and, not_and_or] at hkept
    obtain ⟨hearlier, hrepair, hfirst⟩ := hkept
    -- A stage that has been run before finds nothing to do.
    cases stage with
    | ensureServices =>
        have hmem : .ensureServices ∈ plan := by simpa using hfirst
        change (doc.ensured now _).Synced
        rw [ensured_of_ensured (h.ensured hmem)]
        exact h.synced (hearlier (by decide))
    | synthesizeTasks => exact (h.synced (hearlier (by decide))).synthesized
    | synthesizeExtraTasks => exact (h.synced (hearlier (by decide))).extraSynthesized
    | repairReferences => exact absurd rfl hrepair
    | dedupeTasks =>
        have hmem : .dedupeTasks ∈ plan := by simpa using hfirst
        change doc.deduped.Synced
        rw [deduped_of_distinctTasks (h.distinct hmem)]
        exact h.synced (hearlier (by decide))
    | syncViews => exact synced_sync doc

theorem Plan.maintained_effect (plan : Plan) {doc : Document} (h : doc.Synced) :
    plan.Maintained settings (plan.effect settings now doc) := by
  induction plan using List.reverseRecOn with
  | nil => exact ⟨fun hmem => absurd hmem List.not_mem_nil, fun hmem =>
      absurd hmem List.not_mem_nil, fun _ => h⟩
  | append_singleton plan stage ih =>
      rw [effect_append]
      exact ih.effect settings now stage

end MockCluster
