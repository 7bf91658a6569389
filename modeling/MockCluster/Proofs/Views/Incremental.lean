import MockCluster.Proofs.Synthesis.Tasks

/-!
Filing one task is as good as bringing all views in line with the longer task list, and so the
synthesis of tasks, which only ever files, keeps views up to date.
-/

namespace MockCluster

namespace Store

variable {store : Store}

theorem synced_synthesizeTasks (h : store.doc.Synced) (now : Instant) (services : Nat) :
    (store.synthesizeTasks now services).1.doc.Synced := by
  change (store.insertTasks _).doc.Synced
  rw [doc_insertTasks]
  exact h.insertAll (Document.newTasks_missing store)

theorem synced_synthesizeExtraTasks (h : store.doc.Synced) (now : Instant) (services : Nat) :
    (store.synthesizeExtraTasks now services).1.doc.Synced := by
  unfold synthesizeExtraTasks
  split
  next => exact h
  next first _ =>
    change (store.insertTasks _).doc.Synced
    rw [doc_insertTasks]
    exact h.insertAll (Document.newTasks_missingExtras store first)

end Store

open Document

/-- Filing a new task in a document that is up to date, and telling the timeline anew, gives what a
synchronisation makes of the document with the task merely listed.  Both passes of the synthesis
keep a document up to date, whatever their number of services and whatever the index says. -/
theorem insertion_agrees_with_sync :
    (∀ (doc : Document) (task : Task), doc.sync = doc → task.id ∉ doc.taskIds →
      (doc.insertTask task).regenerateTimeline =
        { doc with tasks := doc.tasks ++ [task] }.sync) ∧
    ∀ (store : Store) (now : Instant) (services : Nat), store.doc.sync = store.doc →
      let filled := (store.synthesizeTasks now services).1.doc
      let extended := (store.synthesizeExtraTasks now services).1.doc
      filled.sync = filled ∧ extended.sync = extended := by
  constructor
  · intro doc task hsync hnew
    exact regenerateTimeline_insertTask (synced_iff.2 hsync) hnew
  · intro store now services hsync
    have hsynced : store.doc.Synced := synced_iff.2 hsync
    exact ⟨(Store.synced_synthesizeTasks hsynced now services).sync_eq,
      (Store.synced_synthesizeExtraTasks hsynced now services).sync_eq⟩

/-- A roster node and a service on both dashboards, and nothing filed anywhere. -/
def idle : Document where
  nodes := [{ id := "n1" }, { id := "n1", hostname := some "again" }]
  services := [{ id := "s", tasks := some ∅ }]
  horizontal := { services := [{ id := "s" }] }
  vertical := { services := [{ id := "s" }], nodes := [{ id := "n1" }] }

theorem synced_idle : idle.Synced where
  refsListed _ hmem := absurd hmem List.not_mem_nil
  nodes := List.forall_iff_forall_mem.1 ⟨rfl, rfl, rfl⟩
  services := List.forall_iff_forall_mem.1 ⟨rfl, rfl, rfl⟩
  unassigned := rfl
  timeline := rfl

theorem insertion_agrees_with_sync_idle :
    let task : Task := { id := "t", serviceId := some "s", nodeId := some "n1" }
    let filled := ((Store.of "doc.json" idle).synthesizeTasks ⟨0, 0⟩ 6).1.doc
    idle.sync = idle ∧ "t" ∉ idle.taskIds ∧
      (idle.insertTask task).regenerateTimeline = { idle with tasks := [task] }.sync ∧
      filled.sync = filled := by
  intro task filled
  have hnew : "t" ∉ idle.taskIds := List.not_mem_nil
  exact ⟨synced_idle.sync_eq, hnew,
    insertion_agrees_with_sync.1 idle task synced_idle.sync_eq hnew,
    (insertion_agrees_with_sync.2 (Store.of "doc.json" idle) ⟨0, 0⟩ 6 synced_idle.sync_eq).1⟩

end MockCluster
