import MockCluster.Proofs.Document.Fits
import MockCluster.Proofs.Synthesis.Tasks
import MockCluster.Proofs.Views.Insertion

/-!
Views that change keep a document fit to be stored: references are new and plain, or take over
untyped data that stood at the same depth.
-/

namespace MockCluster

open Json (freeMembers_nil)

variable {depth : Nat}

theorem TaskRef.fits_of_plain {ref : TaskRef}
    (hstatus : ∀ status ∈ ref.status, status.untyped = []) (huntyped : ref.untyped = []) :
    ref.Fits depth where
  status := by
    intro status hmem
    constructor
    rw [hstatus status hmem]
    exact freeMembers_nil
  untyped := by
    rw [huntyped]
    exact freeMembers_nil

theorem Task.fits_ref (task : Task) : task.ref.Fits depth :=
  TaskRef.fits_of_plain (by simp [ref]) rfl

theorem Task.fits_unassignedRef (task : Task) : task.unassignedRef.Fits depth :=
  TaskRef.fits_of_plain (by simp [unassignedRef, ref]) rfl

theorem Task.fits_ofRef (ref : TaskRef) (service? node? : Option String) :
    (Task.ofRef ref service? node?).Fits depth where
  slot _ hslot := by cases hslot
  status _ hstatus := by cases hstatus
  untyped := freeMembers_nil

theorem TaskRef.Fits.inherit {ref : TaskRef} {former : List TaskRef} (h : ref.Fits depth)
    (hformer : ∀ old ∈ former, old.Fits depth) : (ref.inherit former).Fits depth where
  status := h.status
  untyped := by
    simp only [TaskRef.inherit, untypedFor]
    cases hfind : former.find? fun old => old.id = ref.id with
    | none => exact h.untyped
    | some old => exact (hformer old (List.mem_of_find?_eq_some hfind)).untyped

namespace Grouping

theorem fits_empty : (∅ : Grouping).Fits depth := List.forall_mem_nil _

theorem Fits.file {grouping : Grouping} {ref : TaskRef} (h : grouping.Fits depth)
    (href : ref.Fits (depth + 2)) (key : String) : (grouping.file key ref).Fits depth := by
  intro other hmem
  rcases mem_refs_file.1 hmem with hmem | rfl
  · exact h other hmem
  · exact href

/-- A change of what holders have that keeps it fit at every depth. -/
def KeepsFit (f : Bool → String → Option Grouping → Option Grouping) : Prop :=
  ∀ (depth : Nat) (gains : Bool) (owner : String) (held : Option Grouping),
    (∀ grouping ∈ held, grouping.Fits depth) → ∀ grouping ∈ f gains owner held, grouping.Fits depth

theorem keepsFit_fileAt (place : Option (String × String)) (task : Task) :
    KeepsFit (fileAt place task.ref) := by
  intro depth gains owner held hheld grouping hmem
  unfold fileAt fileHeld at hmem
  split at hmem
  · split at hmem
    · cases held with
      | none =>
          simp only at hmem
          split at hmem
          · cases hmem
            exact fits_empty.file task.fits_ref _
          · cases hmem
      | some former =>
          cases hmem
          exact (hheld former rfl).file task.fits_ref _
    · exact hheld grouping hmem
  · exact hheld grouping hmem

theorem keepsFit_refiled (place : Task → Option (String × String)) (tasks : List Task) :
    KeepsFit (Groupings.project place tasks).refiled := by
  intro depth gains owner held hheld grouping hmem
  have hrefs : Grouping.Fits depth ((Groupings.project place tasks).of owner) := by
    intro ref href
    obtain ⟨task, _, _, rfl⟩ := Groupings.mem_refs_of_project.1 href
    exact task.fits_ref
  rw [Groupings.refiled, refile_eq (Groupings.projected_of_project place tasks owner)] at hmem
  cases held with
  | none =>
      simp only at hmem
      split at hmem
      · cases hmem
        exact hrefs
      · cases hmem
  | some former =>
      cases hmem
      intro ref href
      rw [refs_inherit, List.mem_map] at href
      obtain ⟨origin, horigin, rfl⟩ := href
      exact (hrefs origin horigin).inherit (hheld former rfl)

end Grouping

namespace Document.Fits

variable {doc : Document}

theorem mapNodeGroupings (h : doc.Fits) {f : Bool → String → Option Grouping → Option Grouping}
    (hf : Grouping.KeepsFit f) : (doc.mapNodeGroupings f).Fits := by
  have hnode : ∀ {depth : Nat} {nodes : List Node} (gains : Bool),
      (∀ node ∈ nodes, node.Fits depth) →
        ∀ node ∈ nodes.map fun node => { node with tasks := f gains node.id node.tasks },
          node.Fits depth := by
    intro depth nodes gains hnodes
    rw [List.forall_mem_map]
    intro node hmem
    have hfits := hnodes node hmem
    exact { hfits with tasks := hf _ gains node.id node.tasks hfits.tasks }
  exact
    { h with
      nodes := hnode _ h.nodes
      horizontal := { h.horizontal with nodes := hnode _ h.horizontal.nodes }
      vertical := { h.vertical with nodes := hnode _ h.vertical.nodes } }

theorem mapServiceGroupings (h : doc.Fits)
    {f : Bool → String → Option Grouping → Option Grouping} (hf : Grouping.KeepsFit f) :
    (doc.mapServiceGroupings f).Fits := by
  have hsummary : ∀ {summaries : List ServiceSummary} (gains : Bool),
      (∀ summary ∈ summaries, summary.Fits 3) →
        ∀ summary ∈ summaries.map fun summary =>
          { summary with tasks := f gains summary.id summary.tasks }, summary.Fits 3 := by
    intro summaries gains hsummaries
    rw [List.forall_mem_map]
    intro summary hmem
    have hfits := hsummaries summary hmem
    exact { hfits with tasks := hf _ gains summary.id summary.tasks hfits.tasks }
  have hservice : ∀ service ∈ doc.services.map fun service =>
      { service with tasks := f false service.id service.tasks }, service.Fits 2 := by
    rw [List.forall_mem_map]
    intro service hmem
    have hfits := h.services service hmem
    exact { hfits with tasks := hf _ false service.id service.tasks hfits.tasks }
  exact
    { h with
      services := hservice
      horizontal := { h.horizontal with services := hsummary _ h.horizontal.services }
      vertical := { h.vertical with services := hsummary _ h.vertical.services } }

theorem withUnassigned (h : doc.Fits) {refs : List TaskRef} (hrefs : ∀ ref ∈ refs, ref.Fits 3) :
    (doc.withUnassigned refs).Fits :=
  { h with horizontal := { h.horizontal with unassigned := hrefs } }

theorem withTasks (h : doc.Fits) {tasks : List Task} (htasks : ∀ task ∈ tasks, task.Fits 2) :
    Document.Fits { doc with tasks := tasks } :=
  { h with tasks := htasks }

theorem backfill (h : doc.Fits) : doc.backfill.Fits := by
  refine h.withTasks (List.forall_mem_append.2 ⟨h.tasks, ?_⟩)
  intro task hmem
  have hreferenced := (firstUnknown_sublist _ _).subset hmem
  simp only [referencedTasks, List.mem_append, List.mem_flatMap, List.mem_map] at hreferenced
  rcases hreferenced with (⟨_, _, _, _, _, _, rfl⟩ | ⟨_, _, rfl⟩) | ⟨_, _, _, _, _, _, rfl⟩
  all_goals exact Task.fits_ofRef _ _ _

theorem refileViews (h : doc.Fits) : doc.refileViews.Fits := by
  rw [refileViews_eq]
  have hgroupings := (h.mapNodeGroupings (Grouping.keepsFit_refiled Task.nodePlace doc.tasks))
    |>.mapServiceGroupings (Grouping.keepsFit_refiled Task.servicePlace doc.tasks)
  refine hgroupings.withUnassigned ?_
  rw [keepUntyped_eq_map, List.forall_mem_map]
  intro ref hmem
  obtain ⟨task, _, rfl⟩ := mem_projectUnassigned hmem
  exact task.fits_unassignedRef.inherit h.horizontal.unassigned

theorem regenerateTimeline (h : doc.Fits) : doc.regenerateTimeline.Fits := by
  have hslot : ∀ entry ∈ projectTimeline doc.tasks, entry.slot < twoTo 64 := by
    rw [projectTimeline, List.forall_mem_map]
    intro task hmem
    change task.slot.getD 0 < twoTo 64
    cases hslot : task.slot with
    | none => decide
    | some slot => exact (h.tasks task hmem).slot slot hslot
  exact { h with timeline := hslot }

theorem sync (h : doc.Fits) : doc.sync.Fits := h.backfill.refileViews.regenerateTimeline

theorem insertTask (h : doc.Fits) {task : Task} (htask : task.Fits 2) :
    (doc.insertTask task).Fits := by
  have hfiled : (doc.fileTask task).Fits := by
    rw [fileTask_eq]
    have hgroupings := (h.mapNodeGroupings (Grouping.keepsFit_fileAt task.nodePlace task))
      |>.mapServiceGroupings (Grouping.keepsFit_fileAt task.servicePlace task)
    refine hgroupings.withUnassigned (List.forall_mem_append.2 ⟨h.horizontal.unassigned, ?_⟩)
    intro ref hmem
    unfold Task.unassignedRef? at hmem
    split at hmem
    · cases List.mem_singleton.1 hmem
      exact task.fits_unassignedRef
    · cases hmem
  exact hfiled.withTasks
    (List.forall_mem_append.2 ⟨hfiled.tasks, List.forall_mem_singleton.2 htask⟩)

theorem insertAll (h : doc.Fits) {tasks : List Task} (htasks : ∀ task ∈ tasks, task.Fits 2) :
    (doc.insertAll tasks).Fits := by
  have hinserted : ∀ {doc : Document}, doc.Fits → (tasks.foldl Document.insertTask doc).Fits := by
    intro doc h
    induction tasks generalizing doc with
    | nil => exact h
    | cons task rest ih =>
        obtain ⟨htask, hrest⟩ := List.forall_mem_cons.1 htasks
        exact ih hrest (h.insertTask htask)
  unfold Document.insertAll
  split
  · exact h
  · exact (hinserted h).regenerateTimeline

end Document.Fits

end MockCluster
