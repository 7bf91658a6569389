import Mathlib.Data.List.Nodup
import MockCluster.Proofs.Synthesis.Services
import MockCluster.Synthesis.Tasks
import Std.Data.String.ToNat

/-!
Synthetic tasks: each pass lists what is missing under IDs that are new and different, so views that
were in line stay in line, and a second pass finds nothing missing.
-/

namespace MockCluster

namespace Synthetic

theorem hyphen_not_mem_digits (n : Nat) : '-' ∉ Nat.toDigits 10 n := by
  intro hmem
  have hdigit := Nat.isDigit_of_mem_toDigits (by decide) (by decide) hmem
  exact absurd hdigit (by decide)

theorem taskId_injective {i j k l : Nat} (h : taskId i j = taskId k l) : i = k ∧ j = l := by
  simp only [taskId, serviceId, String.append_assoc, String.append_right_inj] at h
  have hchars := congrArg String.toList h
  simp only [String.toList_append, toString, Nat.repr, String.toList_ofList] at hchars
  have hparts := (List.append_cons_inj_of_notMem (hyphen_not_mem_digits i)
    (hyphen_not_mem_digits (j + 1))).1 hchars
  have hservice : Nat.repr i = Nat.repr k := String.ext (by simpa [Nat.repr] using hparts.1)
  have hturn : Nat.repr (j + 1) = Nat.repr (l + 1) :=
    String.ext (by simpa [Nat.repr] using hparts.2.2)
  exact ⟨Nat.repr_injective hservice, Nat.succ.inj (Nat.repr_injective hturn)⟩

theorem extraTaskId_injective : Function.Injective extraTaskId := by
  intro i j heq
  rw [extraTaskId, extraTaskId, String.append_left_inj, String.append_right_inj] at heq
  exact serviceId_injective heq

theorem nodup_taskNumbers (services : Nat) : (taskNumbers services).Nodup := by
  unfold taskNumbers
  rw [List.nodup_flatMap]
  refine ⟨fun i _ => ?_, ?_⟩
  · exact List.Nodup.map (fun j k heq => (Prod.mk.inj heq).2) List.nodup_range
  · apply List.Nodup.pairwise_of_forall_ne List.nodup_range'
    intro i _ j _ hne pair hi hj
    obtain ⟨_, _, rfl⟩ := List.mem_map.1 hi
    obtain ⟨_, _, heq⟩ := List.mem_map.1 hj
    exact hne (Prod.mk.inj heq).1.symm

end Synthetic

/-- A listed task is found whether or not the index knows it. -/
theorem Store.not_mem_taskIds_of_hasTask_eq_false {store : Store} {id : String}
    (h : store.hasTask id = false) : id ∉ store.doc.taskIds := by
  intro hmem
  obtain ⟨task, htask, hid⟩ := List.mem_map.1 hmem
  rw [Store.hasTask, Bool.or_eq_false_iff, List.any_eq_false] at h
  exact h.2 task htask (by simpa using hid)

namespace Document

variable (tasks : List Task) (doc : Document)

/-- The document with more tasks filed, and the timeline to follow if there are any. -/
def insertAll (tasks : List Task) (doc : Document) : Document :=
  if tasks.isEmpty then doc else (tasks.foldl insertTask doc).regenerateTimeline

theorem tasks_insertAll : (doc.insertAll tasks).tasks = doc.tasks ++ tasks := by
  unfold insertAll
  split
  next hempty => simp [List.isEmpty_iff.1 hempty]
  next => exact tasks_foldl_insertTask tasks doc

theorem taskIds_insertAll : (doc.insertAll tasks).taskIds = doc.taskIds ++ tasks.map Task.id := by
  rw [taskIds, tasks_insertAll, List.map_append]
  rfl

theorem sameListings_insertAll : SameListings doc (doc.insertAll tasks) := by
  unfold insertAll
  split
  · exact .refl doc
  · have hfiled := sameListings_insertTasks tasks doc
    exact ⟨hfiled.nodes, hfiled.services⟩

variable {tasks doc}

theorem Synced.insertAll (h : doc.Synced) (hnew : doc.NewTasks tasks) :
    (doc.insertAll tasks).Synced := by
  unfold Document.insertAll
  split
  · exact h
  · refine synced_insertTasks ?_ hnew
    rwa [regenerateTimeline, ← h.timeline]

theorem hasTask_of {source id : String} :
    (Store.of source doc).hasTask id = true ↔ id ∈ doc.taskIds := by
  have hlisted : (doc.tasks.any fun task => task.id = id) = true ↔ id ∈ doc.taskIds := by
    simp [taskIds]
  rw [Store.hasTask, Bool.or_eq_true, Store.contains_task_of]
  change _ ∨ (doc.tasks.any fun task => task.id = id) = true ↔ _
  rw [hlisted, or_iff_right_of_imp And.left]

variable (now : Instant) (services : Nat) (doc)

def missingTasks : List (Nat × Nat) := (Store.of "" doc).missingTasks services

def synthesized : Document :=
  doc.insertAll ((doc.missingTasks services).map (doc.rotatedTask now))

def missingExtras : List Nat :=
  (List.range' 1 services).filter fun i => !(Store.of "" doc).hasTask (Synthetic.extraTaskId i)

def extraSynthesized : Document :=
  match doc.placements.head? with
  | none => doc
  | some first => doc.insertAll ((doc.missingExtras services).map (doc.extraTask now first))

variable {now services doc}

theorem mem_missingTasks {number : Nat × Nat} :
    number ∈ doc.missingTasks services ↔
      number ∈ Synthetic.taskNumbers services ∧
        Synthetic.taskId number.1 number.2 ∉ doc.taskIds := by
  rw [missingTasks, Store.missingTasks, List.mem_filter]
  simp only [Bool.not_eq_true', ← Bool.not_eq_true, hasTask_of]

theorem mem_missingExtras {i : Nat} :
    i ∈ doc.missingExtras services ↔
      i ∈ List.range' 1 services ∧ Synthetic.extraTaskId i ∉ doc.taskIds := by
  rw [missingExtras, List.mem_filter, Bool.not_eq_true', ← Bool.not_eq_true, hasTask_of]

theorem id_owner (doc : Document) (i : Nat) : (doc.owner i).id = Synthetic.serviceId i := by
  simp only [owner]
  split <;> rfl

theorem map_id_rotatedTask (numbers : List (Nat × Nat)) :
    (numbers.map (doc.rotatedTask now)).map Task.id =
      numbers.map fun number => Synthetic.taskId number.1 number.2 := by
  rw [List.map_map]
  rfl

theorem map_id_extraTask (first : Placement) (numbers : List Nat) :
    (numbers.map (doc.extraTask now first)).map Task.id = numbers.map Synthetic.extraTaskId := by
  rw [List.map_map]
  rfl

theorem newTasks_missing (store : Store) :
    store.doc.NewTasks ((store.missingTasks services).map (store.doc.rotatedTask now)) where
  nodup := by
    rw [map_id_rotatedTask]
    refine List.Nodup.map_on ?_ ((Synthetic.nodup_taskNumbers services).filter _)
    rintro ⟨i, j⟩ _ ⟨k, l⟩ _ heq
    obtain ⟨rfl, rfl⟩ := Synthetic.taskId_injective heq
    rfl
  unlisted := by
    intro task hmem
    obtain ⟨number, hnumber, rfl⟩ := List.mem_map.1 hmem
    have habsent := (List.mem_filter.1 hnumber).2
    rw [Bool.not_eq_true'] at habsent
    exact Store.not_mem_taskIds_of_hasTask_eq_false habsent

theorem newTasks_missingExtras (store : Store) (first : Placement) :
    store.doc.NewTasks (((List.range' 1 services).filter fun i =>
      !store.hasTask (Synthetic.extraTaskId i)).map (store.doc.extraTask now first)) where
  nodup := by
    rw [map_id_extraTask]
    exact List.Nodup.map Synthetic.extraTaskId_injective ((List.nodup_range').filter _)
  unlisted := by
    intro task hmem
    obtain ⟨i, hi, rfl⟩ := List.mem_map.1 hmem
    have habsent := (List.mem_filter.1 hi).2
    rw [Bool.not_eq_true'] at habsent
    exact Store.not_mem_taskIds_of_hasTask_eq_false habsent

theorem newTasks_rotated :
    doc.NewTasks ((doc.missingTasks services).map (doc.rotatedTask now)) :=
  newTasks_missing (Store.of "" doc)

theorem newTasks_extra (first : Placement) :
    doc.NewTasks ((doc.missingExtras services).map (doc.extraTask now first)) :=
  newTasks_missingExtras (Store.of "" doc) first

theorem Synced.synthesized (h : doc.Synced) : (doc.synthesized now services).Synced :=
  h.insertAll newTasks_rotated

theorem Synced.extraSynthesized (h : doc.Synced) :
    (doc.extraSynthesized now services).Synced := by
  unfold Document.extraSynthesized
  split
  next => exact h
  next first _ => exact h.insertAll (newTasks_extra first)

/-- All tasks of the first pass are listed. -/
def HasSynthetic (services : Nat) (doc : Document) : Prop :=
  ∀ number ∈ Synthetic.taskNumbers services,
    Synthetic.taskId number.1 number.2 ∈ doc.taskIds

def HasExtras (services : Nat) (doc : Document) : Prop :=
  ∀ i ∈ List.range' 1 services, Synthetic.extraTaskId i ∈ doc.taskIds

/-- Whether there is a node that tasks can be placed on. -/
def HasPlacement (doc : Document) : Prop := ∃ node ∈ doc.roster, node.id ≠ ""

theorem missingTasks_of_hasSynthetic (h : doc.HasSynthetic services) :
    doc.missingTasks services = [] := by
  apply List.eq_nil_iff_forall_not_mem.2
  intro number hmem
  obtain ⟨hnumber, habsent⟩ := mem_missingTasks.1 hmem
  exact habsent (h number hnumber)

theorem missingExtras_of_hasExtras (h : doc.HasExtras services) :
    doc.missingExtras services = [] := by
  apply List.eq_nil_iff_forall_not_mem.2
  intro i hmem
  obtain ⟨hi, habsent⟩ := mem_missingExtras.1 hmem
  exact habsent (h i hi)

theorem synthesized_of_hasSynthetic (h : doc.HasSynthetic services) :
    doc.synthesized now services = doc := by
  rw [Document.synthesized, missingTasks_of_hasSynthetic h]
  rfl

theorem hasSynthetic_synthesized : (doc.synthesized now services).HasSynthetic services := by
  intro number hnumber
  rw [Document.synthesized, taskIds_insertAll, map_id_rotatedTask, List.mem_append]
  by_cases hlisted : Synthetic.taskId number.1 number.2 ∈ doc.taskIds
  · exact .inl hlisted
  · exact .inr (List.mem_map.2 ⟨number, mem_missingTasks.2 ⟨hnumber, hlisted⟩, rfl⟩)

theorem head?_placements_eq_none_iff : doc.placements.head? = none ↔ ¬ doc.HasPlacement := by
  rw [List.head?_eq_none_iff, placements, List.map_eq_nil_iff, List.filter_eq_nil_iff]
  simp [HasPlacement]

theorem extraSynthesized_of_hasExtras (h : doc.HasPlacement → doc.HasExtras services) :
    doc.extraSynthesized now services = doc := by
  unfold Document.extraSynthesized
  split
  next => rfl
  next first hfirst =>
    have hplacement : doc.HasPlacement := by
      by_contra hnone
      rw [head?_placements_eq_none_iff.2 hnone] at hfirst
      cases hfirst
    rw [missingExtras_of_hasExtras (h hplacement)]
    rfl

theorem hasExtras_extraSynthesized (h : doc.HasPlacement) :
    (doc.extraSynthesized now services).HasExtras services := by
  intro i hi
  unfold Document.extraSynthesized
  split
  next hfirst => exact absurd h (head?_placements_eq_none_iff.1 hfirst)
  next first hfirst =>
    rw [taskIds_insertAll, map_id_extraTask, List.mem_append]
    by_cases hlisted : Synthetic.extraTaskId i ∈ doc.taskIds
    · exact .inl hlisted
    · exact .inr (List.mem_map_of_mem (mem_missingExtras.2 ⟨hi, hlisted⟩))

theorem taskIds_subset_synthesized : doc.taskIds ⊆ (doc.synthesized now services).taskIds := by
  rw [Document.synthesized, taskIds_insertAll]
  exact List.subset_append_left _ _

theorem taskIds_subset_extraSynthesized :
    doc.taskIds ⊆ (doc.extraSynthesized now services).taskIds := by
  unfold Document.extraSynthesized
  split
  · exact List.Subset.refl _
  · rw [taskIds_insertAll]
    exact List.subset_append_left _ _

theorem sameListings_synthesized : SameListings doc (doc.synthesized now services) :=
  sameListings_insertAll _ doc

theorem sameListings_extraSynthesized : SameListings doc (doc.extraSynthesized now services) := by
  unfold Document.extraSynthesized
  split
  · exact .refl doc
  · exact sameListings_insertAll _ doc

theorem hasPlacement_iff :
    doc.HasPlacement ↔ ∃ id ∈ (if doc.horizontal.nodes.map Node.id = [] then
      doc.nodes.map Node.id else doc.horizontal.nodes.map Node.id), id ≠ "" := by
  unfold HasPlacement roster usesHorizontalRoster
  cases doc.horizontal.nodes <;> simp

end Document

namespace Store

variable (source : String) (doc : Document)

theorem doc_insertTasks (store : Store) (tasks : List Task) :
    (store.insertTasks tasks).doc = store.doc.insertAll tasks := by
  unfold insertTasks Document.insertAll
  split <;> rfl

theorem insertTasks_of (tasks : List Task) :
    (of source doc).insertTasks tasks = of source (doc.insertAll tasks) := by
  unfold insertTasks Document.insertAll
  split <;> rfl

theorem fst_synthesizeTasks_of (now : Instant) (services : Nat) :
    ((of source doc).synthesizeTasks now services).1 =
      of source (doc.synthesized now services) :=
  insertTasks_of source doc _

theorem fst_synthesizeExtraTasks_of (now : Instant) (services : Nat) :
    ((of source doc).synthesizeExtraTasks now services).1 =
      of source (doc.extraSynthesized now services) := by
  unfold synthesizeExtraTasks Document.extraSynthesized
  change (match doc.placements.head? with | none => _ | some first => _ : Store × Nat).1 = _
  cases doc.placements.head? with
  | none => rfl
  | some first => exact insertTasks_of source doc _

end Store

end MockCluster
