import MockCluster.Proofs.Views.Sync

/-!
Filing new tasks one by one in synchronised views keeps them synchronised: each one lands where a
synchronisation of the longer task list would put it.
-/

namespace MockCluster

def fileAt (place : Option (String × String)) (ref : TaskRef) (gains : Bool) (owner : String)
    (held : Option Grouping) : Option Grouping :=
  match place with
  | some (target, key) => if owner = target then fileHeld gains key ref held else held
  | none => held

/-- What a longer task list says of a holder that agrees with the shorter one. -/
theorem Holder.change_refiled_concat {place : Task → Option (String × String)} {tasks : List Task}
    {task : Task} {holder : Holder}
    (hheld : holder.change (Groupings.project place tasks).refiled = holder)
    (hnew : ∀ ref ∈ holder.refs, ref.id ≠ task.id) :
    holder.change (Groupings.project place (tasks ++ [task])).refiled =
      holder.change (fileAt (place task) task.ref) := by
  have hprojected := Groupings.projected_of_project place tasks holder.owner
  have hsame : Grouping.refile holder.gains ((Groupings.project place tasks).of holder.owner)
      holder.held = holder.held := congrArg Holder.held hheld
  simp only [change, Groupings.refiled, mk.injEq, true_and]
  cases hplace : place task with
  | none =>
      rw [Groupings.project_concat_of_none tasks hplace]
      exact hsame
  | some pair =>
      obtain ⟨target, key⟩ := pair
      rw [Groupings.project_concat_of_some tasks hplace, Groupings.of_file]
      simp only [fileAt]
      split
      next howner =>
        subst howner
        exact Grouping.refile_file hprojected hsame key hnew
      next => exact hsame

namespace Document

variable {doc : Document} {task : Task}

theorem Synced.id_mem_taskIds (h : doc.Synced) {ref : TaskRef} (hmem : ref ∈ doc.filedRefs) :
    ref.id ∈ doc.taskIds := by
  simp only [filedRefs, List.mem_append, List.mem_flatMap] at hmem
  rcases hmem with (⟨holder, hholder, href⟩ | hmem) | ⟨holder, hholder, href⟩
  · rw [← h.nodes holder hholder] at href
    exact Groupings.id_mem_of_mem_refs_change href
  · rw [← h.unassigned] at hmem
    exact id_mem_of_mem_keepUntyped_projectUnassigned hmem
  · rw [← h.services holder hholder] at href
    exact Groupings.id_mem_of_mem_refs_change href

theorem mapNodeGroupings_fileAt_none (doc : Document) (ref : TaskRef) :
    doc.mapNodeGroupings (fileAt none ref) = doc := doc.mapNodeGroupings_id

theorem mapServiceGroupings_fileAt_none (doc : Document) (ref : TaskRef) :
    doc.mapServiceGroupings (fileAt none ref) = doc := doc.mapServiceGroupings_id

theorem fileTask_eq (doc : Document) (task : Task) :
    doc.fileTask task =
      ((doc.mapNodeGroupings (fileAt task.nodePlace task.ref)).mapServiceGroupings
        (fileAt task.servicePlace task.ref)).withUnassigned
          (doc.horizontal.unassigned ++ task.unassignedRef?.toList) := by
  unfold fileTask Task.nodePlace Task.servicePlace Task.unassignedRef?
  cases task.serviceId with
  | none =>
      simp [mapNodeGroupings_fileAt_none, mapServiceGroupings_fileAt_none]
  | some service =>
      cases task.nodeId with
      | none =>
          simp only [mapNodeGroupings_fileAt_none]
          rfl
      | some node =>
          simp only [Option.toList_none, List.append_nil]
          rfl

theorem projectUnassigned_concat (tasks : List Task) (task : Task) :
    projectUnassigned (tasks ++ [task]) =
      projectUnassigned tasks ++ task.unassignedRef?.toList := by
  rw [projectUnassigned, List.filterMap_append, List.filterMap_cons, List.filterMap_nil]
  cases task.unassignedRef? <;> rfl

theorem id_of_unassignedRef? {ref : TaskRef} (h : task.unassignedRef? = some ref) :
    ref.id = task.id := by
  unfold Task.unassignedRef? at h
  split at h
  · cases h
    rfl
  · cases h

/-- Filing a new task is bringing in line the document that lists it. -/
theorem refileViews_concat (h : doc.Synced) (hnew : task.id ∉ doc.taskIds) :
    { doc with tasks := doc.tasks ++ [task] }.refileViews = doc.insertTask task := by
  have hfresh : ∀ ref ∈ doc.filedRefs, ref.id ≠ task.id := fun ref hmem heq =>
    hnew (heq ▸ h.id_mem_taskIds hmem)
  simp only [filedRefs, List.mem_append, List.mem_flatMap] at hfresh
  have hnodes : { doc with tasks := doc.tasks ++ [task] }.mapNodeGroupings
        (projectNodes (doc.tasks ++ [task])).refiled =
      { doc with tasks := doc.tasks ++ [task] }.mapNodeGroupings
        (fileAt task.nodePlace task.ref) := by
    apply mapNodeGroupings_congr
    intro holder hmem
    apply Holder.change_refiled_concat (h.nodes holder hmem)
    intro ref href
    exact hfresh ref (.inl (.inl ⟨holder, hmem, href⟩))
  have hservices : ({ doc with tasks := doc.tasks ++ [task] }.mapNodeGroupings
        (fileAt task.nodePlace task.ref)).mapServiceGroupings
        (projectServices (doc.tasks ++ [task])).refiled =
      ({ doc with tasks := doc.tasks ++ [task] }.mapNodeGroupings
        (fileAt task.nodePlace task.ref)).mapServiceGroupings
        (fileAt task.servicePlace task.ref) := by
    apply mapServiceGroupings_congr
    intro holder hmem
    apply Holder.change_refiled_concat (h.services holder hmem)
    intro ref href
    exact hfresh ref (.inr ⟨holder, hmem, href⟩)
  have hunassigned : keepUntyped doc.horizontal.unassigned
        (projectUnassigned (doc.tasks ++ [task])) =
      doc.horizontal.unassigned ++ task.unassignedRef?.toList := by
    rw [projectUnassigned_concat, keepUntyped_append, h.unassigned]
    congr 1
    apply keepUntyped_of_absent
    intro old hold ref href
    rw [id_of_unassignedRef? (Option.mem_toList.1 href)]
    exact hfresh old (.inl (.inr hold))
  rw [refileViews_eq, hnodes, hservices, hunassigned, insertTask, fileTask_eq]
  rfl

theorem regenerateTimeline_insertTask (h : doc.Synced) (hnew : task.id ∉ doc.taskIds) :
    (doc.insertTask task).regenerateTimeline = { doc with tasks := doc.tasks ++ [task] }.sync := by
  have hlisted : { doc with tasks := doc.tasks ++ [task] }.RefsListed := by
    intro ref hmem hne
    rw [taskIds, List.map_append, List.mem_append]
    exact .inl (h.refsListed ref hmem hne)
  rw [sync, backfill_of_refsListed hlisted, refileViews_concat h hnew]

theorem insertTask_regenerateTimeline (doc : Document) (task : Task) :
    (doc.regenerateTimeline.insertTask task).regenerateTimeline =
      (doc.insertTask task).regenerateTimeline := by
  simp only [insertTask, fileTask_eq]
  rfl

@[simp] theorem tasks_insertTask (doc : Document) (task : Task) :
    (doc.insertTask task).tasks = doc.tasks ++ [task] := by
  rw [insertTask, fileTask_eq]
  rfl

theorem tasks_foldl_insertTask (tasks : List Task) (doc : Document) :
    (tasks.foldl insertTask doc).tasks = doc.tasks ++ tasks := by
  induction tasks generalizing doc with
  | nil => exact (List.append_nil _).symm
  | cons task rest ih => rw [List.foldl_cons, ih, tasks_insertTask, List.append_assoc]; rfl

/-- Only the timeline lags behind while new tasks are filed. -/
theorem synced_insertTasks {tasks : List Task} (h : doc.regenerateTimeline.Synced)
    (hnew : doc.NewTasks tasks) : (tasks.foldl insertTask doc).regenerateTimeline.Synced := by
  -- The invariant speaks of the regenerated timeline, since the fold itself leaves it behind.
  induction tasks generalizing doc with
  | nil => exact h
  | cons task rest ih =>
      obtain ⟨hnodup, hunlisted⟩ := hnew
      rw [List.map_cons, List.nodup_cons] at hnodup
      refine ih ?_ ⟨hnodup.2, fun other hmem => ?_⟩
      · rw [← insertTask_regenerateTimeline,
          regenerateTimeline_insertTask h (hunlisted task List.mem_cons_self)]
        exact synced_sync _
      · rw [taskIds, tasks_insertTask, List.map_append, List.mem_append, not_or]
        refine ⟨hunlisted other (List.mem_cons_of_mem _ hmem), fun heq => hnodup.1 ?_⟩
        exact List.mem_singleton.1 heq ▸ List.mem_map_of_mem hmem

end Document

end MockCluster
