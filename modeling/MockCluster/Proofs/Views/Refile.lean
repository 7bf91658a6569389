import MockCluster.Proofs.Views.Holders
import MockCluster.Proofs.Views.Projection
import MockCluster.Views.Sync

/-!
Replacing what a holder has by its projection.

Apart from untyped data the result is the projection, and replacing it again changes nothing: a
reference takes its untyped data from the first former one to its task, which has passed it on to
all others.
-/

namespace MockCluster

/-- A reference without its untyped data. -/
def TaskRef.bare (ref : TaskRef) : TaskRef := { ref with untyped := [] }

/-- The untyped data that a list of references holds for a task. -/
def untypedFor (refs : List TaskRef) (id : String) : Option Members :=
  (refs.find? fun ref => ref.id = id).map TaskRef.untyped

theorem untypedFor_eq_none {refs : List TaskRef} {id : String}
    (h : ∀ ref ∈ refs, ref.id ≠ id) : untypedFor refs id = none := by
  simpa [untypedFor] using h

def TaskRef.inherit (former : List TaskRef) (ref : TaskRef) : TaskRef :=
  { ref with untyped := (untypedFor former ref.id).getD ref.untyped }

@[simp] theorem TaskRef.bare_inherit (former : List TaskRef) (ref : TaskRef) :
    (ref.inherit former).bare = ref.bare := rfl

theorem TaskRef.inherit_of_absent {former : List TaskRef} {ref : TaskRef}
    (h : ∀ old ∈ former, old.id ≠ ref.id) : ref.inherit former = ref := by
  simp [inherit, untypedFor_eq_none h]

theorem keepUntyped_eq_map (former refs : List TaskRef) :
    keepUntyped former refs = refs.map (TaskRef.inherit former) := by
  apply List.map_congr_left
  intro ref _
  simp only [TaskRef.inherit, untypedFor]
  cases former.find? fun old => old.id = ref.id <;> rfl

theorem keepUntyped_append (former first second : List TaskRef) :
    keepUntyped former (first ++ second) = keepUntyped former first ++ keepUntyped former second :=
  List.map_append

theorem keepUntyped_of_absent {former refs : List TaskRef}
    (h : ∀ old ∈ former, ∀ ref ∈ refs, old.id ≠ ref.id) : keepUntyped former refs = refs := by
  calc
    keepUntyped former refs = refs.map (TaskRef.inherit former) := keepUntyped_eq_map former refs
    _ = refs.map id := by
      apply List.map_congr_left
      intro ref hmem
      exact TaskRef.inherit_of_absent fun old hold => h old hold ref hmem
    _ = refs := List.map_id refs

/-- What references inherit, they pass on. -/
theorem untypedFor_map_inherit {former refs : List TaskRef} {ref : TaskRef} (hmem : ref ∈ refs)
    (hbare : ∀ ref ∈ refs, ref.untyped = []) :
    untypedFor (refs.map (TaskRef.inherit former)) ref.id =
      some ((untypedFor former ref.id).getD []) := by
  have hsome : (refs.find? fun other => other.id = ref.id).isSome := by
    rw [List.find?_isSome]
    exact ⟨ref, hmem, by simp⟩
  obtain ⟨first, hfirst⟩ := Option.isSome_iff_exists.1 hsome
  have hid : first.id = ref.id := by simpa using List.find?_some hfirst
  -- Inheriting changes no ID, so the first reference to the task is still the first.
  refine Option.map_eq_some_iff.2 ⟨first.inherit former, ?_, ?_⟩
  · rw [List.find?_map]
    exact Option.map_eq_some_iff.2 ⟨first, hfirst, rfl⟩
  · simp [TaskRef.inherit, hid, hbare first (List.mem_of_find?_eq_some hfirst)]

theorem inherit_inherit {former refs : List TaskRef} {ref : TaskRef} (hmem : ref ∈ refs)
    (hbare : ∀ ref ∈ refs, ref.untyped = []) :
    ref.inherit (refs.map (TaskRef.inherit former)) = ref.inherit former := by
  simp only [TaskRef.inherit, untypedFor_map_inherit hmem hbare, hbare ref hmem, Option.getD_some]

theorem keepUntyped_keepUntyped {former refs : List TaskRef}
    (hbare : ∀ ref ∈ refs, ref.untyped = []) :
    keepUntyped (keepUntyped former refs) refs = keepUntyped former refs := by
  simp only [keepUntyped_eq_map]
  exact List.map_congr_left fun ref hmem => inherit_inherit hmem hbare

theorem map_bare_eq_self {refs : List TaskRef} (h : ∀ ref ∈ refs, ref.untyped = []) :
    refs.map TaskRef.bare = refs := by
  calc
    refs.map TaskRef.bare = refs.map id := by
      apply List.map_congr_left
      intro ref hmem
      simp [TaskRef.bare, ← h ref hmem]
    _ = refs := List.map_id refs

theorem map_bare_keepUntyped (former refs : List TaskRef) :
    (keepUntyped former refs).map TaskRef.bare = refs.map TaskRef.bare := by
  simp [keepUntyped_eq_map, Function.comp_def]

namespace Grouping

def bare (grouping : Grouping) : Grouping := grouping.map (List.map TaskRef.bare)

/-- A grouping as a projection makes it: no bucket is empty and no reference has untyped data. -/
structure Projected (grouping : Grouping) : Prop where
  filled : grouping.Filled
  untyped : ∀ ref ∈ grouping.refs, ref.untyped = []

theorem Projected.bare_eq {grouping : Grouping} (h : grouping.Projected) :
    grouping.bare = grouping := by
  apply OrderedMap.map_eq_self
  intro bucket hbucket
  apply map_bare_eq_self
  intro ref hmem
  exact h.untyped ref (List.mem_flatten.2 ⟨bucket, hbucket, hmem⟩)

theorem Projected.file {grouping : Grouping} (h : grouping.Projected) (key : String) (task : Task) :
    (grouping.file key task.ref).Projected := by
  refine ⟨h.filled.file key _, ?_⟩
  intro ref hmem
  rcases mem_refs_file.1 hmem with hmem | rfl
  · exact h.untyped ref hmem
  · rfl

def inherit (former : List TaskRef) (projected : Grouping) : Grouping :=
  projected.map (List.map (TaskRef.inherit former))

theorem bare_inherit (former : List TaskRef) (projected : Grouping) :
    (projected.inherit former).bare = projected.bare := by
  simp [bare, inherit, OrderedMap.map_map, Function.comp_def]

theorem refs_inherit (former : List TaskRef) (projected : Grouping) :
    (projected.inherit former).refs = projected.refs.map (TaskRef.inherit former) :=
  refs_map_map _ projected

theorem inherit_refs_inherit {projected : Grouping} (h : projected.Projected)
    (former : List TaskRef) :
    projected.inherit (projected.inherit former).refs = projected.inherit former := by
  apply OrderedMap.map_congr
  intro bucket hbucket
  apply List.map_congr_left
  intro ref hmem
  rw [refs_inherit]
  exact inherit_inherit (List.mem_flatten.2 ⟨bucket, hbucket, hmem⟩) h.untyped

theorem inherit_own_refs {projected : Grouping} (h : projected.Projected) :
    projected.inherit projected.refs = projected := by
  have hself : projected.inherit [] = projected := by
    apply OrderedMap.map_eq_self
    intro bucket _
    rw [← keepUntyped_eq_map]
    exact keepUntyped_of_absent (by simp)
  have hagain := inherit_refs_inherit h []
  rwa [hself] at hagain

theorem inherit_file {former : List TaskRef} {ref : TaskRef}
    (h : ∀ old ∈ former, old.id ≠ ref.id) (projected : Grouping) (key : String) :
    (projected.file key ref).inherit former = (projected.inherit former).file key ref := by
  rw [inherit, map_file, TaskRef.inherit_of_absent h]
  rfl

/-- Replacing, case by case: what is held takes over the projection, and what is missing is supplied
where there is something to file. -/
theorem refile_eq {projected : Grouping} (h : projected.Projected) (gains : Bool)
    (held : Option Grouping) :
    refile gains projected held =
      match held with
      | some former => some (projected.inherit former.refs)
      | none => if gains = true ∧ projected ≠ ∅ then some projected else none := by
  have hempty : projected.refs.isEmpty = true ↔ projected = ∅ := by
    rw [List.isEmpty_iff, h.filled.refs_eq_nil_iff]
  have hinherit : ∀ former : Grouping,
      projected.map (keepUntyped former.refs) = projected.inherit former.refs := fun former =>
    OrderedMap.map_congr fun bucket _ => keepUntyped_eq_map _ bucket
  unfold refile
  by_cases heq : projected = ∅
  · rw [if_pos (hempty.2 heq)]
    subst heq
    cases held <;> simp [inherit]
  · rw [if_neg fun hrefs => heq (hempty.1 hrefs)]
    cases held <;> simp [hinherit, heq]

theorem refile_refile {projected : Grouping} (h : projected.Projected) (gains : Bool)
    (held : Option Grouping) :
    refile gains projected (refile gains projected held) = refile gains projected held := by
  simp only [refile_eq h]
  cases held with
  | none =>
      by_cases hgains : gains = true ∧ projected ≠ ∅
      · simp [hgains, inherit_own_refs h]
      · simp [hgains]
  | some former => simp [inherit_refs_inherit h]

theorem refile_file {projected : Grouping} {gains : Bool} {held : Option Grouping} {task : Task}
    (h : projected.Projected) (hheld : refile gains projected held = held) (key : String)
    (hnew : ∀ ref ∈ (held.getD ∅).refs, ref.id ≠ task.id) :
    refile gains (projected.file key task.ref) held = fileHeld gains key task.ref held := by
  rw [refile_eq h] at hheld
  rw [refile_eq (h.file key task)]
  cases held with
  | none =>
      cases gains with
      | false => simp [fileHeld]
      | true =>
          have hnone : projected = ∅ := by
            by_contra hne
            simp [hne] at hheld
          simp [fileHeld, hnone, file_ne_empty]
  | some former =>
      have hformer : projected.inherit former.refs = former := by simpa using hheld
      simp only [fileHeld, Option.some.injEq]
      rw [inherit_file hnew, hformer]

end Grouping

theorem Groupings.projected_of_project (place : Task → Option (String × String))
    (tasks : List Task) (owner : String) : ((project place tasks).of owner).Projected := by
  refine ⟨filled_of_project tasks owner, ?_⟩
  intro ref hmem
  obtain ⟨task, _, _, rfl⟩ := mem_refs_of_project.1 hmem
  rfl

/-- What becomes of a holder when its grouping is replaced by its projection: apart from untyped
data it has the projection, and it has gained a grouping only where there is something to file. -/
structure Holder.Refiled (views : Groupings) (before after : Holder) : Prop where
  gains : after.gains = before.gains
  owner : after.owner = before.owner
  exact : ∀ grouping, after.held = some grouping → grouping.bare = views.of after.owner
  kept : before.held.isSome → after.held.isSome
  gained : before.held = none →
    (after.held.isSome ↔ before.gains = true ∧ views.of before.owner ≠ ∅)

theorem Holder.refiled_change {views : Groupings} (h : ∀ owner, (views.of owner).Projected)
    (holder : Holder) :
    Holder.Refiled views holder
      (holder.change fun gains owner held => Grouping.refile gains (views.of owner) held) where
  gains := rfl
  owner := rfl
  exact := by
    intro grouping hheld
    simp only [change, Grouping.refile_eq (h _)] at hheld
    cases hcase : holder.held with
    | some former =>
        rw [hcase] at hheld
        cases hheld
        rw [Grouping.bare_inherit, (h _).bare_eq]
        rfl
    | none =>
        simp only [hcase] at hheld
        split at hheld
        · cases hheld
          exact (h _).bare_eq
        · cases hheld
  kept := by
    intro hsome
    obtain ⟨former, hformer⟩ := Option.isSome_iff_exists.1 hsome
    simp [change, Grouping.refile_eq (h _), hformer]
  gained := by
    intro hnone
    simp only [change, Grouping.refile_eq (h _), hnone]
    split <;> simp_all

end MockCluster
