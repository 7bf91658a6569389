import MockCluster.Proofs.Index
import MockCluster.Proofs.Pipeline.Convergence

/-!
The index along a run.

A stage brings the index up to date only when it finds something to do, so a stage that starts with
a fresh index must leave everything that is indexed alone whenever it skips that.
-/

namespace MockCluster

variable (settings : Settings) (now : Instant)

theorem Stage.isFresh_run {store : Store} (h : store.IsFresh) (stage : Stage)
    (summary : RunSummary) : (stage.run settings now store summary).1.IsFresh := by
  rw [h.eq_of, stage.fst_run_of]
  exact Store.isFresh_of _ _

theorem Plan.isFresh_runFrom (plan : Plan) {state : Store × RunSummary} (h : state.1.IsFresh) :
    (plan.runFrom settings now state).1.IsFresh := by
  induction plan generalizing state with
  | nil => exact h
  | cons stage rest ih => exact ih (Stage.isFresh_run settings now h stage state.2)

/-- In a run that starts with a fresh index, the index is the one of the document as it then is
after every stage: places, membership, the order of the known IDs and the repeated IDs are read off
that document. -/
theorem index_fresh_after_every_stage (plan : Plan) {store : Store} (h : store.IsFresh) (n : Nat) :
    let reached := Plan.runFrom settings now (plan.take n) (store, { stages := plan })
    plan.run settings now store = Plan.runFrom settings now (plan.drop n) reached ∧
      reached.1.index = Index.of reached.1.doc ∧ reached.1.index.Describes reached.1.doc := by
  intro reached
  have hfresh : reached.1.index = Index.of reached.1.doc :=
    Plan.isFresh_runFrom settings now (plan.take n) h
  refine ⟨?_, hfresh, ?_⟩
  · change Plan.runFrom settings now plan _ = _
    rw [← Plan.runFrom_append, List.take_append_drop]
  · rw [hfresh]
    exact Index.describes_of _

/-- The second of two repairs moves a node, and the index moves with it. -/
theorem index_fresh_once_node_moved :
    (Store.of "doc.json" nodeAsService).IsFresh ∧
      let reached := Plan.runFrom .standard ⟨0, 0⟩
        [.repairReferences, .syncViews, .repairReferences]
        (Store.of "doc.json" nodeAsService,
          { stages := [.repairReferences, .syncViews, .repairReferences, .syncViews] })
      reached.1.index = Index.of reached.1.doc ∧ reached.1.index.Describes reached.1.doc := by
  have hfresh : (Store.of "doc.json" nodeAsService).IsFresh := Store.isFresh_of _ _
  exact ⟨hfresh, (index_fresh_after_every_stage .standard ⟨0, 0⟩
    [.repairReferences, .syncViews, .repairReferences, .syncViews] hfresh 3).2⟩

end MockCluster
