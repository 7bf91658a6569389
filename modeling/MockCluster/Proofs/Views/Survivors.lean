import MockCluster.Proofs.Views.Sync

/-!
What becomes of untyped data when groupings are replaced.

A reference takes over the data of the first former one to its task, under whatever key that was
filed.  Its status block is made anew from the task, so what was untyped in the former block is gone.
-/

namespace MockCluster

namespace Members

/-- All members of another list, with the same values. -/
def Extends (members former : Members) : Prop :=
  ∀ key value, former.get? key = some value → members.get? key = some value

theorem extends_refl (members : Members) : members.Extends members :=
  fun _ _ hmember => hmember

theorem nil_extends_iff {former : Members} : Extends [] former ↔ former = [] := by
  constructor
  · intro h
    cases former with
    | nil => rfl
    | cons member rest =>
        obtain ⟨key, value⟩ := member
        have hkept := h key value (by simp [get?])
        cases hkept
  · rintro rfl
    exact extends_refl []

end Members

namespace TaskRef

def statusUntyped (ref : TaskRef) : Members := (ref.status.map TaskStatus.untyped).getD []

/-- A reference has all the untyped data of another one, its own and that of its status block. -/
structure Carries (ref former : TaskRef) : Prop where
  own : ref.untyped.Extends former.untyped
  status : ref.statusUntyped.Extends former.statusUntyped

/-- A reference as tasks make it, without untyped data at either level. -/
structure Plain (ref : TaskRef) : Prop where
  own : ref.untyped = []
  status : ref.statusUntyped = []

end TaskRef

theorem Task.plain_ref (task : Task) : task.ref.Plain := ⟨rfl, rfl⟩

theorem Task.plain_unassignedRef (task : Task) : task.unassignedRef.Plain := ⟨rfl, rfl⟩

/-- What is carried over where references give way to others: a reference has the untyped data of
the first former one to its task, and so of the only one if there is only one.  It has nothing of
that one's status block. -/
def CarriedOver (before after : List TaskRef) : Prop :=
  ∀ former ref, before.find? (·.id = ref.id) = some former → ref ∈ after →
    ref.untyped = former.untyped ∧ (ref.Carries former ↔ former.statusUntyped = [])

theorem carriedOver_nil (after : List TaskRef) : CarriedOver [] after := by
  intro former ref hfirst
  cases hfirst

theorem carriedOver_inherit {refs : List TaskRef} (hplain : ∀ ref ∈ refs, ref.Plain)
    (before : List TaskRef) : CarriedOver before (refs.map (TaskRef.inherit before)) := by
  intro former ref hfirst hmem
  obtain ⟨projected, hprojected, rfl⟩ := List.mem_map.1 hmem
  have hown : (projected.inherit before).untyped = former.untyped := by
    have huntyped : untypedFor before projected.id = some former.untyped :=
      congrArg (Option.map TaskRef.untyped) hfirst
    simp [TaskRef.inherit, huntyped]
  have hstatus : (projected.inherit before).statusUntyped = [] :=
    (hplain projected hprojected).status
  refine ⟨hown, ?_⟩
  constructor
  · intro hcarries
    have hextends := hcarries.status
    rw [hstatus] at hextends
    exact Members.nil_extends_iff.1 hextends
  · intro hnone
    refine ⟨?_, ?_⟩
    · rw [hown]
      exact Members.extends_refl _
    · rw [hstatus, hnone]
      exact Members.extends_refl _

theorem Groupings.plain_of_project {place : Task → Option (String × String)} {tasks : List Task}
    {owner : String} : ∀ ref ∈ ((project place tasks).of owner).refs, ref.Plain := by
  intro ref hmem
  obtain ⟨task, _, _, rfl⟩ := mem_refs_of_project.1 hmem
  exact task.plain_ref

theorem Holder.carriedOver_change (place : Task → Option (String × String)) (tasks : List Task)
    (holder : Holder) :
    CarriedOver holder.refs (holder.change (Groupings.project place tasks).refiled).refs := by
  cases hheld : holder.held with
  | none =>
      have hrefs : holder.refs = [] := by simp [refs, hheld]
      rw [hrefs]
      exact carriedOver_nil _
  | some grouping =>
      have hprojected := Groupings.projected_of_project place tasks holder.owner
      have hrefs : (holder.change (Groupings.project place tasks).refiled).refs =
          ((Groupings.project place tasks).of holder.owner).refs.map
            (TaskRef.inherit holder.refs) := by
        simp [refs, change, Groupings.refiled, Grouping.refile_eq hprojected, hheld,
          Grouping.refs_inherit]
      rw [hrefs]
      exact carriedOver_inherit Groupings.plain_of_project holder.refs

theorem plain_projectUnassigned {tasks : List Task} :
    ∀ ref ∈ projectUnassigned tasks, ref.Plain := by
  intro ref hmem
  obtain ⟨task, _, rfl⟩ := mem_projectUnassigned hmem
  exact task.plain_unassignedRef

/-- In every holder, and among the references without a node, a reference keeps its own untyped data
when the views are synchronised, wherever it is filed before and afterwards.  It keeps all untyped
data exactly if there is none in its status block. -/
theorem untyped_carried_over_sync (doc : Document) :
    List.Forall₂ (fun before after => CarriedOver before.refs after.refs)
        doc.nodeHolders doc.sync.nodeHolders ∧
      List.Forall₂ (fun before after => CarriedOver before.refs after.refs)
        doc.serviceHolders doc.sync.serviceHolders ∧
      CarriedOver doc.horizontal.unassigned doc.sync.horizontal.unassigned := by
  refine ⟨?_, ?_, ?_⟩
  · rw [Document.nodeHolders_sync, List.forall₂_map_right_iff]
    exact List.forall₂_same.2 fun holder _ => holder.carriedOver_change _ _
  · rw [Document.serviceHolders_sync, List.forall₂_map_right_iff]
    exact List.forall₂_same.2 fun holder _ => holder.carriedOver_change _ _
  · rw [Document.unassigned_sync, keepUntyped_eq_map]
    exact carriedOver_inherit plain_projectUnassigned _

/-- A reference with untyped data at both levels, and its task. -/
def healthRef : TaskRef where
  id := "t"
  status := some { state := some "running", untyped := [("Health", .string "ok")] }
  untyped := [("Pinned", .bool true)]

def healthTask : Task where
  id := "t"
  serviceId := some "s"
  nodeId := some "n"
  state := some "running"

def healthReport : Document where
  nodes := [{ id := "n", tasks := some (Grouping.file ∅ "s" healthRef) }]
  tasks := [healthTask]

theorem tasks_sync_healthReport : healthReport.sync.tasks = [healthTask] :=
  Document.tasks_sync_of_refsListed (by unfold Document.RefsListed; decide)

/-- The reference stays where it is, with its own untyped data and without that of its status. -/
theorem status_data_dropped :
    let kept : TaskRef := { healthTask.ref with untyped := healthRef.untyped }
    healthReport.nodeHolders.map Holder.refs = [[healthRef]] ∧
      healthReport.sync.nodeHolders.map Holder.refs = [[kept]] ∧ kept.id = healthRef.id ∧
      kept.statusUntyped = [] ∧ ¬ kept.Carries healthRef := by
  intro kept
  refine ⟨rfl, ?_, rfl, rfl, ?_⟩
  · rw [Document.nodeHolders_sync, tasks_sync_healthReport]
    rfl
  · intro hcarries
    cases hcarries.status "Health" (.string "ok") rfl

end MockCluster
