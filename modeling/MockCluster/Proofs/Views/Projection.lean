import Mathlib.Data.List.Induction
import MockCluster.Proofs.OrderedMap
import MockCluster.Views.Projection

/-!
What a projection holds: the bucket of an owner and a key are the references to the tasks of that
place, in the order of the task list, and there are no empty buckets.
-/

namespace MockCluster

namespace Grouping

theorem find?_append (grouping : Grouping) (key other : String) (refs : List TaskRef) :
    (grouping.append key refs).find? other =
      if other = key then some ((grouping.find? key).getD [] ++ refs) else grouping.find? other :=
  OrderedMap.find?_update grouping key other _

theorem find?_file (grouping : Grouping) (key other : String) (ref : TaskRef) :
    (grouping.file key ref).find? other =
      if other = key then some ((grouping.find? key).getD [] ++ [ref])
      else grouping.find? other :=
  grouping.find?_append key other [ref]

theorem mem_refs_iff {grouping : Grouping} {ref : TaskRef} :
    ref ∈ grouping.refs ↔ ∃ key bucket, grouping.find? key = some bucket ∧ ref ∈ bucket := by
  simp only [refs, List.mem_flatten, OrderedMap.mem_values_iff]
  constructor
  · intro hgiven
    obtain ⟨bucket, ⟨key, hfind⟩, hmem⟩ := hgiven
    exact ⟨key, bucket, hfind, hmem⟩
  · intro hgiven
    obtain ⟨key, bucket, hfind, hmem⟩ := hgiven
    exact ⟨bucket, ⟨key, hfind⟩, hmem⟩

@[simp] theorem refs_empty : (∅ : Grouping).refs = [] := rfl

theorem mem_refs_append {grouping : Grouping} {key : String} {added : List TaskRef}
    {ref : TaskRef} :
    ref ∈ (grouping.append key added).refs ↔ ref ∈ grouping.refs ∨ ref ∈ added := by
  simp only [mem_refs_iff, find?_append]
  constructor
  · intro hgiven
    obtain ⟨other, bucket, hfind, hmem⟩ := hgiven
    split at hfind
    next heq =>
      cases hfind
      rcases List.mem_append.1 hmem with hmem | hmem
      · cases hheld : grouping.find? key with
        | none => simp [hheld] at hmem
        | some held => exact .inl ⟨key, held, hheld, by simpa [hheld] using hmem⟩
      · exact .inr hmem
    next => exact .inl ⟨other, bucket, hfind, hmem⟩
  · intro hgiven
    rcases hgiven with ⟨other, bucket, hfind, hmem⟩ | hmem
    · by_cases heq : other = key
      · subst heq
        exact ⟨other, _, if_pos rfl, by simp [hfind, hmem]⟩
      · exact ⟨other, bucket, by rw [if_neg heq, hfind], hmem⟩
    · exact ⟨key, _, if_pos rfl, by simp [hmem]⟩

theorem mem_refs_file {grouping : Grouping} {key : String} {added ref : TaskRef} :
    ref ∈ (grouping.file key added).refs ↔ ref ∈ grouping.refs ∨ ref = added := by
  rw [file, mem_refs_append, List.mem_singleton]

theorem refs_map_map (f : TaskRef → TaskRef) (grouping : Grouping) :
    Grouping.refs (grouping.map (List.map f)) = grouping.refs.map f := by
  simp [refs, List.map_flatten]

theorem map_file (f : TaskRef → TaskRef) (grouping : Grouping) (key : String) (ref : TaskRef) :
    (grouping.file key ref).map (List.map f) =
      Grouping.file (grouping.map (List.map f)) key (f ref) := by
  apply OrderedMap.map_update grouping key _ _ _
  intro held
  cases held <;> simp

def Filled (grouping : Grouping) : Prop := ∀ bucket ∈ grouping.values, bucket ≠ []

theorem filled_empty : Filled ∅ := by
  intro bucket hmem
  cases hmem

theorem Filled.file {grouping : Grouping} (h : grouping.Filled) (key : String) (ref : TaskRef) :
    (grouping.file key ref).Filled := by
  intro bucket hmem
  obtain ⟨other, hfind⟩ := OrderedMap.mem_values_iff.1 hmem
  rw [find?_file] at hfind
  split at hfind
  · cases hfind
    simp
  · exact h bucket (OrderedMap.mem_values_iff.2 ⟨other, hfind⟩)

theorem Filled.refs_eq_nil_iff {grouping : Grouping} (h : grouping.Filled) :
    grouping.refs = [] ↔ grouping = ∅ := by
  constructor
  · intro hrefs
    have hvalues : grouping.values = [] := by
      refine List.eq_nil_iff_forall_not_mem.2 fun bucket hmem => h bucket hmem ?_
      exact List.flatten_eq_nil_iff.1 hrefs bucket hmem
    apply OrderedMap.eq_empty_iff.2
    simpa [OrderedMap.keys, OrderedMap.values] using hvalues
  · intro heq
    subst heq
    rfl

theorem file_ne_empty (grouping : Grouping) (key : String) (ref : TaskRef) :
    grouping.file key ref ≠ ∅ :=
  OrderedMap.update_ne_empty grouping key _

end Grouping

namespace Groupings

variable (place : Task → Option (String × String))

theorem of_file (groupings : Groupings) (owner other key : String) (ref : TaskRef) :
    (groupings.file owner key ref).of other =
      if other = owner then (groupings.of owner).file key ref else groupings.of other := by
  simp only [of, file, OrderedMap.find?_update]
  split <;> rfl

/-- The references filed under an owner and a key. -/
def bucket (tasks : List Task) (owner key : String) : List TaskRef :=
  (tasks.filter fun task => place task = some (owner, key)).map Task.ref

variable {place}

theorem project_concat_of_some {task : Task} {owner key : String} (tasks : List Task)
    (h : place task = some (owner, key)) :
    project place (tasks ++ [task]) = (project place tasks).file owner key task.ref := by
  simp only [project, List.foldl_append, List.foldl_cons, List.foldl_nil, h]

theorem project_concat_of_none {task : Task} (tasks : List Task) (h : place task = none) :
    project place (tasks ++ [task]) = project place tasks := by
  simp only [project, List.foldl_append, List.foldl_cons, List.foldl_nil, h]

theorem filled_of_project (tasks : List Task) (owner : String) :
    ((project place tasks).of owner).Filled := by
  induction tasks using List.reverseRecOn with
  | nil => exact Grouping.filled_empty
  | append_singleton tasks task ih =>
      cases h : place task with
      | none => rwa [project_concat_of_none tasks h]
      | some pair =>
          obtain ⟨target, key⟩ := pair
          rw [project_concat_of_some tasks h, of_file]
          split
          next heq => exact (heq ▸ ih).file key task.ref
          next => exact ih

theorem bucket_concat (tasks : List Task) (task : Task) (owner key : String) :
    bucket place (tasks ++ [task]) owner key =
      if place task = some (owner, key) then bucket place tasks owner key ++ [task.ref]
      else bucket place tasks owner key := by
  by_cases h : place task = some (owner, key) <;> simp [bucket, h]

theorem find?_of_project (tasks : List Task) (owner key : String) :
    ((project place tasks).of owner).find? key =
      if bucket place tasks owner key = [] then none else some (bucket place tasks owner key) := by
  -- Tasks are filed from first to last, so the induction takes away the last one.
  induction tasks using List.reverseRecOn with
  | nil => rfl
  | append_singleton tasks task ih =>
      rw [bucket_concat]
      cases h : place task with
      | none => simpa [project_concat_of_none tasks h] using ih
      | some pair =>
          obtain ⟨target, other⟩ := pair
          rw [project_concat_of_some tasks h, of_file]
          by_cases howner : owner = target
          · subst howner
            rw [if_pos rfl, Grouping.find?_file]
            by_cases hkey : key = other
            · subst hkey
              have hheld : (((project place tasks).of owner).find? key).getD [] =
                  bucket place tasks owner key := by
                rw [ih]
                split <;> simp_all
              simp [hheld]
            · have hne : other ≠ key := fun heq => hkey heq.symm
              simp [hkey, hne, ih]
          · have hne : target ≠ owner := fun heq => howner heq.symm
            simp [howner, hne, ih]

theorem mem_keys_of_project {tasks : List Task} {owner key : String} :
    key ∈ ((project place tasks).of owner).keys ↔
      ∃ task ∈ tasks, place task = some (owner, key) := by
  have hbucket : bucket place tasks owner key ≠ [] ↔
      ∃ task ∈ tasks, place task = some (owner, key) := by
    simp [bucket, List.filter_eq_nil_iff]
  rw [← hbucket, OrderedMap.mem_keys_iff, find?_of_project]
  split <;> simp_all

theorem mem_refs_of_project {tasks : List Task} {owner : String} {ref : TaskRef} :
    ref ∈ ((project place tasks).of owner).refs ↔
      ∃ task ∈ tasks, (∃ key, place task = some (owner, key)) ∧ task.ref = ref := by
  rw [Grouping.mem_refs_iff]
  constructor
  · intro hgiven
    obtain ⟨key, held, hfind, hmem⟩ := hgiven
    rw [find?_of_project] at hfind
    split at hfind
    · cases hfind
    · cases hfind
      obtain ⟨task, htask, rfl⟩ := List.mem_map.1 hmem
      obtain ⟨htask, hplace⟩ := List.mem_filter.1 htask
      exact ⟨task, htask, ⟨key, by simpa using hplace⟩, rfl⟩
  · intro hgiven
    obtain ⟨task, htask, ⟨key, hplace⟩, rfl⟩ := hgiven
    have hmem : task.ref ∈ bucket place tasks owner key :=
      List.mem_map_of_mem (List.mem_filter.2 ⟨htask, by simpa using hplace⟩)
    refine ⟨key, _, ?_, hmem⟩
    rw [find?_of_project, if_neg (List.ne_nil_of_mem hmem)]

end Groupings

theorem nodePlace_eq_some_iff {task : Task} {node service : String} :
    task.nodePlace = some (node, service) ↔
      task.nodeId = some node ∧ task.serviceId = some service := by
  unfold Task.nodePlace
  cases task.serviceId <;> cases task.nodeId <;> simp

theorem servicePlace_eq_some_iff {task : Task} {service key : String} :
    task.servicePlace = some (service, key) ↔
      task.serviceId = some service ∧ task.nodeKey = key := by
  unfold Task.servicePlace
  cases task.serviceId <;> simp

end MockCluster
