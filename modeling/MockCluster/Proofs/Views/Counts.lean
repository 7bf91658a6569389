import MockCluster.Proofs.Views.Sync

/-!
What a synchronisation counts: a document that it leaves as it is has no reference that came or
went, and so a second one reports nothing but the length of the timeline.
-/

namespace MockCluster

section Counts

variable {α : Type} [DecidableEq α]

theorem countAdded_self (items : List α) : countAdded items items = 0 := by
  rw [countAdded, List.countP_eq_zero]
  intro item hmem
  simpa using hmem

theorem countGone_self (items : List α) : countGone items items = 0 := by
  have hkept : items.filter (· ∈ items) = items := by
    rw [List.filter_eq_self]
    intro item hmem
    simpa using hmem
  rw [countGone, hkept, Nat.sub_self]

end Counts

namespace Document

theorem sumOver_self {count : List (String × String) → List (String × String) → Nat}
    (hcount : ∀ pairs, count pairs pairs = 0) (groupings : List (String × Option Grouping)) :
    sumOver count groupings groupings = 0 := by
  rw [sumOver]
  induction groupings with
  | nil => rfl
  | cons entry rest ih =>
      simp only [List.zip_cons_cons, List.foldl_cons, hcount, Nat.add_zero]
      exact ih

theorem viewChanges_self (doc : Document) :
    viewChanges doc doc =
      { backfilled := 0, nodeRefsAdded := 0, serviceRefsAdded := 0, unassignedRefsAdded := 0,
        staleRefsRemoved := 0, timelineEntries := doc.timeline.length } := by
  simp only [viewChanges, sumOver_self countAdded_self, sumOver_self countGone_self,
    countAdded_self, countGone_self, Nat.sub_self, Nat.add_zero]

end Document

/-- What a synchronisation has brought in line is left alone by the next one, groupings with their
untyped data, references without a node, tasks and timeline: no task is found in a grouping only, and
no reference comes or goes. -/
theorem second_sync_changes_nothing (doc : Document) :
    doc.sync.sync = doc.sync ∧ doc.sync.unlistedTasks.map Finding.backfilled = [] ∧
      doc.sync.syncStats =
        { backfilled := 0, nodeRefsAdded := 0, serviceRefsAdded := 0, unassignedRefsAdded := 0
          staleRefsRemoved := 0, timelineEntries := doc.sync.tasks.length } := by
  have hsynced : doc.sync.Synced := doc.synced_sync
  have hunlisted : doc.sync.unlistedTasks = [] :=
    Document.unlistedTasks_eq_nil_iff.2 hsynced.refsListed
  refine ⟨hsynced.sync_eq, by rw [hunlisted, List.map_nil], ?_⟩
  rw [Document.syncStats, hsynced.sync_eq, Document.viewChanges_self, hsynced.timeline,
    projectTimeline, List.length_map]

end MockCluster
