import MockCluster.Proofs.Pipeline.Chain

/-!
Which plans keep views up to date whatever the settings and the document, and that a plan may pass
the check without being one of them.

The check takes a stage that writes views as one that leaves them up to date.  Ensuring services and
repairing references write views without bringing them in line, and the synthesis of tasks clears
what a renaming of duplicates has put out of date.
-/

namespace MockCluster

open Document

namespace Plan

theorem not_leavesStale_of_sync (plan : Plan) : ¬ LeavesStale (plan ++ [.syncViews]) := by
  rw [leavesStale_concat]
  intro hgiven
  rcases hgiven with ⟨hne, _⟩ | heq | ⟨heq | heq, _⟩
  · exact hne rfl
  · cases heq
  · cases heq
  · cases heq

theorem exists_not_synced_effect {plan : Plan} (h : plan.LeavesStale) (now : Instant) :
    ∃ count ≤ 1, ∃ doc : Document, doc.Synced ∧
      ¬ (plan.effect (.servicesOnly count) now doc).Synced := by
  obtain ⟨before, stage, after, rfl, hafter, rfl | ⟨rfl | rfl, hbefore⟩⟩ := h
  · exact ⟨0, Nat.zero_le 1, _, synced_sync _, not_synced_effect_chain now hafter⟩
  · exact ⟨1, Nat.le_refl 1, _, synced_unserved, not_synced_effect_unserved now hbefore hafter⟩
  · exact ⟨0, Nat.zero_le 1, _, synced_twins, not_synced_effect_twins now hbefore hafter⟩

end Plan

theorem check_servicesOnly {count : Nat} (h : count ≤ 1) :
    (Settings.servicesOnly count).check = .ok () := by
  match count with
  | 0 => decide
  | 1 => decide

/-- A plan takes every document with views that are up to date to one with views that are, unless a
stage that may put them out of date stands behind its last synchronisation; then there is a document
that it does not. -/
theorem run_keeps_views_iff (plan : Plan) (now : Instant) (source : String) :
    (¬ plan.LeavesStale → ∀ (settings : Settings) (doc : Document), doc.sync = doc →
      let out := (plan.run settings now (Store.of source doc)).1.doc
      out.sync = out) ∧
    (plan.LeavesStale → ∃ (settings : Settings) (doc : Document),
      settings.check = .ok () ∧ doc.sync = doc ∧
        let out := (plan.run settings now (Store.of source doc)).1.doc
        out.sync ≠ out) := by
  constructor
  · intro hkept settings doc hdoc
    rw [Plan.fst_run_of]
    exact ((plan.maintained_effect settings now (synced_iff.2 hdoc)).synced hkept).sync_eq
  · intro hstale
    obtain ⟨count, hcount, doc, hdoc, hout⟩ := Plan.exists_not_synced_effect hstale now
    refine ⟨.servicesOnly count, doc, check_servicesOnly hcount, hdoc.sync_eq, ?_⟩
    rw [Plan.fst_run_of]
    exact fun heq => hout (synced_iff.2 heq)

theorem full_run_keeps_views_of_unserved : ¬ Plan.full.LeavesStale ∧
    let out := (Plan.full.run .standard ⟨0, 0⟩ (Store.of "doc.json" unserved)).1.doc
    out.sync = out := by
  have hkept : ¬ Plan.full.LeavesStale := Plan.not_leavesStale_of_sync
    [.ensureServices, .synthesizeTasks, .synthesizeExtraTasks, .repairReferences, .dedupeTasks]
  exact ⟨hkept, (run_keeps_views_iff Plan.full ⟨0, 0⟩ "doc.json").1 hkept .standard unserved
    synced_unserved.sync_eq⟩

/-- Ensuring services passes the check, and leaves a service whose task it does not file. -/
theorem ensured_service_lacks_task :
    Plan.check [.ensureServices] = .ok () ∧ (Settings.servicesOnly 1).check = .ok () ∧
      unserved.sync = unserved ∧
      let out := (Plan.run [.ensureServices] (.servicesOnly 1) ⟨0, 0⟩
        (Store.of "doc.json" unserved)).1.doc
      out.sync ≠ out := by
  refine ⟨rfl, by decide, synced_unserved.sync_eq, ?_⟩
  rw [Plan.fst_run_of]
  exact fun heq => not_synced_ensured_unserved ⟨0, 0⟩ (synced_iff.2 heq)

end MockCluster
