import MockCluster.Proofs.Views.Backfill
import MockCluster.Proofs.Views.Refile

/-!
After a synchronisation every view says what the task list says, and a second one changes nothing.
-/

namespace MockCluster

theorem projected_projectNodes (tasks : List Task) (owner : String) :
    ((projectNodes tasks).of owner).Projected :=
  Groupings.projected_of_project Task.nodePlace tasks owner

theorem projected_projectServices (tasks : List Task) (owner : String) :
    ((projectServices tasks).of owner).Projected :=
  Groupings.projected_of_project Task.servicePlace tasks owner

theorem mem_projectUnassigned {tasks : List Task} {ref : TaskRef}
    (h : ref ∈ projectUnassigned tasks) : ∃ task ∈ tasks, ref = task.unassignedRef := by
  obtain ⟨task, htask, href⟩ := List.mem_filterMap.1 h
  refine ⟨task, htask, ?_⟩
  unfold Task.unassignedRef? at href
  split at href
  · exact (Option.some.inj href).symm
  · cases href

theorem untyped_of_mem_projectUnassigned {tasks : List Task} :
    ∀ ref ∈ projectUnassigned tasks, ref.untyped = [] := by
  intro ref href
  obtain ⟨task, _, rfl⟩ := mem_projectUnassigned href
  rfl

def Groupings.refiled (views : Groupings) (gains : Bool) (owner : String)
    (held : Option Grouping) : Option Grouping :=
  Grouping.refile gains (views.of owner) held

theorem Groupings.refiled_refiled {views : Groupings} (h : ∀ owner, (views.of owner).Projected)
    (holder : Holder) :
    (holder.change views.refiled).change views.refiled = holder.change views.refiled := by
  simp only [Holder.change, refiled, Grouping.refile_refile (h _)]

/-- A grouping that follows the task list has the keys that the list gives its owner. -/
theorem Holder.keys_of_refiled {place : Task → Option (String × String)} {tasks : List Task}
    {holder : Holder}
    (h : holder.change (Groupings.project place tasks).refiled = holder) :
    (holder.held.getD ∅).keys =
      ((holder.held.map fun _ => (Groupings.project place tasks).of holder.owner).getD ∅).keys := by
  have hheld : Grouping.refile holder.gains ((Groupings.project place tasks).of holder.owner)
      holder.held = holder.held := congrArg Holder.held h
  rw [Grouping.refile_eq (Groupings.projected_of_project place tasks holder.owner)] at hheld
  cases hcase : holder.held with
  | none => rfl
  | some grouping =>
      rw [hcase] at hheld
      have hsame := Option.some.inj hheld
      rw [Option.getD_some, ← hsame, Grouping.inherit, OrderedMap.keys_map]
      rfl

theorem Groupings.exists_of_mem_refs_change {views : Groupings}
    (h : ∀ owner, (views.of owner).Projected) {holder : Holder} {ref : TaskRef}
    (hmem : ref ∈ (holder.change views.refiled).refs) :
    ∃ origin ∈ (views.of holder.owner).refs, origin.id = ref.id := by
  simp only [Holder.refs, Holder.change, refiled, Grouping.refile_eq (h _)] at hmem
  cases hheld : holder.held with
  | none =>
      simp only [hheld] at hmem
      split at hmem
      · exact ⟨ref, hmem, rfl⟩
      · cases hmem
  | some former =>
      simp only [hheld, Option.getD_some, Grouping.refs_inherit, List.mem_map] at hmem
      obtain ⟨origin, horigin, rfl⟩ := hmem
      exact ⟨origin, horigin, rfl⟩

theorem Groupings.id_mem_of_mem_refs_change {place : Task → Option (String × String)}
    {tasks : List Task} {holder : Holder} {ref : TaskRef}
    (hmem : ref ∈ (holder.change (project place tasks).refiled).refs) :
    ref.id ∈ tasks.map Task.id := by
  obtain ⟨origin, horigin, hid⟩ :=
    exists_of_mem_refs_change (projected_of_project place tasks) hmem
  obtain ⟨task, htask, _, rfl⟩ := mem_refs_of_project.1 horigin
  exact hid ▸ List.mem_map_of_mem htask

theorem id_mem_of_mem_keepUntyped_projectUnassigned {former : List TaskRef} {tasks : List Task}
    {ref : TaskRef} (hmem : ref ∈ keepUntyped former (projectUnassigned tasks)) :
    ref.id ∈ tasks.map Task.id := by
  rw [keepUntyped_eq_map] at hmem
  obtain ⟨origin, horigin, rfl⟩ := List.mem_map.1 hmem
  obtain ⟨task, htask, rfl⟩ := mem_projectUnassigned horigin
  exact List.mem_map_of_mem (f := Task.id) htask

namespace Document

variable (doc : Document)

@[simp] theorem tasks_sync : doc.sync.tasks = doc.tasks ++ doc.unlistedTasks := rfl

theorem tasks_sync_of_refsListed {doc : Document} (h : doc.RefsListed) :
    doc.sync.tasks = doc.tasks := by
  rw [tasks_sync, unlistedTasks_eq_nil_iff.2 h, List.append_nil]

theorem timeline_sync : doc.sync.timeline = projectTimeline doc.sync.tasks := rfl

theorem unassigned_sync :
    doc.sync.horizontal.unassigned =
      keepUntyped doc.horizontal.unassigned (projectUnassigned doc.sync.tasks) := rfl

theorem refileViews_eq :
    doc.refileViews =
      ((doc.mapNodeGroupings (projectNodes doc.tasks).refiled).mapServiceGroupings
        (projectServices doc.tasks).refiled).withUnassigned
          (keepUntyped doc.horizontal.unassigned (projectUnassigned doc.tasks)) := rfl

theorem nodeHolders_refileViews :
    doc.refileViews.nodeHolders =
      doc.nodeHolders.map (Holder.change (projectNodes doc.tasks).refiled) := by
  rw [refileViews_eq, nodeHolders_withUnassigned, nodeHolders_mapServiceGroupings,
    nodeHolders_mapNodeGroupings]

theorem serviceHolders_refileViews :
    doc.refileViews.serviceHolders =
      doc.serviceHolders.map (Holder.change (projectServices doc.tasks).refiled) := by
  rw [refileViews_eq, serviceHolders_withUnassigned, serviceHolders_mapServiceGroupings,
    serviceHolders_mapNodeGroupings]

theorem nodeHolders_sync :
    doc.sync.nodeHolders =
      doc.nodeHolders.map (Holder.change (projectNodes doc.sync.tasks).refiled) :=
  doc.backfill.nodeHolders_refileViews

theorem serviceHolders_sync :
    doc.sync.serviceHolders =
      doc.serviceHolders.map (Holder.change (projectServices doc.sync.tasks).refiled) :=
  doc.backfill.serviceHolders_refileViews

theorem refsListed_sync : doc.sync.RefsListed := by
  intro ref hmem _
  rw [filedRefs, nodeHolders_sync, serviceHolders_sync, unassigned_sync] at hmem
  simp only [List.mem_append, List.mem_flatMap, List.mem_map, exists_exists_and_eq_and] at hmem
  rcases hmem with (⟨holder, _, hmem⟩ | hmem) | ⟨holder, _, hmem⟩
  · exact Groupings.id_mem_of_mem_refs_change hmem
  · exact id_mem_of_mem_keepUntyped_projectUnassigned hmem
  · exact Groupings.id_mem_of_mem_refs_change hmem

/-- A document whose views say what its task list says, and know no other tasks. -/
structure Synced : Prop where
  refsListed : doc.RefsListed
  nodes : ∀ holder ∈ doc.nodeHolders,
    holder.change (projectNodes doc.tasks).refiled = holder
  services : ∀ holder ∈ doc.serviceHolders,
    holder.change (projectServices doc.tasks).refiled = holder
  unassigned :
    keepUntyped doc.horizontal.unassigned (projectUnassigned doc.tasks) = doc.horizontal.unassigned
  timeline : doc.timeline = projectTimeline doc.tasks

theorem synced_sync : doc.sync.Synced where
  refsListed := doc.refsListed_sync
  nodes := by
    rw [nodeHolders_sync]
    intro holder hmem
    obtain ⟨former, _, rfl⟩ := List.mem_map.1 hmem
    exact Groupings.refiled_refiled (projected_projectNodes _) former
  services := by
    rw [serviceHolders_sync]
    intro holder hmem
    obtain ⟨former, _, rfl⟩ := List.mem_map.1 hmem
    exact Groupings.refiled_refiled (projected_projectServices _) former
  unassigned := by
    rw [unassigned_sync]
    exact keepUntyped_keepUntyped untyped_of_mem_projectUnassigned
  timeline := doc.timeline_sync

variable {doc}

theorem Synced.sync_eq (h : doc.Synced) : doc.sync = doc := by
  have hnodes : doc.mapNodeGroupings (projectNodes doc.tasks).refiled = doc :=
    (mapNodeGroupings_congr h.nodes).trans (mapNodeGroupings_id doc)
  have hservices : doc.mapServiceGroupings (projectServices doc.tasks).refiled = doc :=
    (mapServiceGroupings_congr h.services).trans (mapServiceGroupings_id doc)
  have hviews : doc.refileViews = doc := by
    rw [refileViews_eq, hnodes, hservices, h.unassigned, withUnassigned_self]
  rw [sync, backfill_of_refsListed h.refsListed, hviews, regenerateTimeline, ← h.timeline]

theorem synced_iff : doc.Synced ↔ doc.sync = doc :=
  ⟨Synced.sync_eq, fun h => h ▸ doc.synced_sync⟩

theorem sync_sync (doc : Document) : doc.sync.sync = doc.sync := doc.synced_sync.sync_eq

/-- Every record that has a grouping has the one that is projected for it, records gain groupings
only where they may and there is something to file, and the references without a node and the
timeline follow the task list. -/
theorem views_exact_after_sync (doc : Document) :
    List.Forall₂ (Holder.Refiled (projectNodes doc.sync.tasks))
        doc.nodeHolders doc.sync.nodeHolders ∧
      List.Forall₂ (Holder.Refiled (projectServices doc.sync.tasks))
        doc.serviceHolders doc.sync.serviceHolders ∧
      doc.sync.horizontal.unassigned.map TaskRef.bare = projectUnassigned doc.sync.tasks ∧
      doc.sync.timeline = projectTimeline doc.sync.tasks ∧
      doc.sync.timeline.map TimelineEntry.id = doc.sync.taskIds := by
  refine ⟨?_, ?_, ?_, doc.timeline_sync, ?_⟩
  · rw [nodeHolders_sync, List.forall₂_map_right_iff]
    exact List.forall₂_same.2 fun holder _ =>
      Holder.refiled_change (projected_projectNodes _) holder
  · rw [serviceHolders_sync, List.forall₂_map_right_iff]
    exact List.forall₂_same.2 fun holder _ =>
      Holder.refiled_change (projected_projectServices _) holder
  · rw [unassigned_sync, map_bare_keepUntyped]
    exact map_bare_eq_self untyped_of_mem_projectUnassigned
  · rw [timeline_sync, projectTimeline, List.map_map]
    rfl

end Document

end MockCluster
