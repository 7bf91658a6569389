import MockCluster.Proofs.Lists
import MockCluster.Proofs.Views.Counts
import MockCluster.Proofs.Views.Transpose

/-!
The counts of a synchronisation are sizes of differences: between the references that are filed
before it and those that are filed afterwards, each told by its holder, its key and its task.

What is gone is counted as a difference of sizes, which is right for all documents.  What has come
is counted reference by reference, so here it matters that no two tasks of the list share an ID.
-/

namespace MockCluster

section Counts

variable {α : Type} [DecidableEq α]

theorem countAdded_eq_card {former current : List α} (h : current.Nodup) :
    countAdded former current = (current.toFinset \ former.toFinset).card := by
  have hset : current.toFinset \ former.toFinset =
      (current.filter (· ∉ former)).toFinset := by
    ext item
    simp
  rw [hset, List.toFinset_card_of_nodup (h.filter _), countAdded, List.countP_eq_length_filter]

theorem countGone_eq_card (former current : List α) :
    countGone former current = (former.toFinset \ current.toFinset).card := by
  have hkept : (current.filter (· ∈ former)).toFinset = current.toFinset ∩ former.toFinset := by
    ext item
    simp
  rw [countGone, length_eraseDups, length_eraseDups, hkept, Finset.card_sdiff]

end Counts

section Placed

variable {ι β : Type}

/-- The items of several lists, each with the place of its list. -/
def placed (start : Nat) (lists : List (List β)) : List (Nat × β) :=
  (lists.zipIdx start).flatMap fun (items, place) => items.map (Prod.mk place)

theorem placed_cons (start : Nat) (first : List β) (rest : List (List β)) :
    placed start (first :: rest) = first.map (Prod.mk start) ++ placed (start + 1) rest := by
  simp [placed, List.zipIdx_cons]

theorem le_of_mem_placed {start place : Nat} {item : β} {lists : List (List β)}
    (h : (place, item) ∈ placed start lists) : start ≤ place := by
  induction lists generalizing start with
  | nil => cases h
  | cons first rest ih =>
      rw [placed_cons, List.mem_append] at h
      rcases h with h | h
      · obtain ⟨_, _, heq⟩ := List.mem_map.1 h
        exact (congrArg Prod.fst heq).le
      · exact (Nat.le_succ start).trans (ih h)

variable [DecidableEq β]

theorem card_placed_sdiff (f g : ι → List β) (items : List ι) (start : Nat) :
    ((placed start (items.map f)).toFinset \ (placed start (items.map g)).toFinset).card =
      (items.map fun item => ((f item).toFinset \ (g item).toFinset).card).sum := by
  induction items generalizing start with
  | nil => rfl
  | cons item rest ih =>
      -- What is behind the first list has greater places, so the difference falls into two parts.
      have hsplit : (placed start ((item :: rest).map f)).toFinset \
            (placed start ((item :: rest).map g)).toFinset =
          ((f item).toFinset \ (g item).toFinset).image (Prod.mk start) ∪
            ((placed (start + 1) (rest.map f)).toFinset \
              (placed (start + 1) (rest.map g)).toFinset) := by
        ext ⟨place, entry⟩
        have hplace : ∀ h : ι → List β, (place, entry) ∈ placed (start + 1) (rest.map h) →
            place ≠ start := fun h hmem => (Nat.lt_of_succ_le (le_of_mem_placed hmem)).ne'
        have hf := hplace f
        have hg := hplace g
        simp only [List.map_cons, placed_cons, List.toFinset_append, Finset.mem_sdiff,
          Finset.mem_union, List.mem_toFinset, List.mem_map, Prod.mk.injEq, Finset.mem_image]
        grind
      have hdisjoint : Disjoint (((f item).toFinset \ (g item).toFinset).image (Prod.mk start))
          ((placed (start + 1) (rest.map f)).toFinset \
            (placed (start + 1) (rest.map g)).toFinset) := by
        rw [Finset.disjoint_left]
        intro entry hfirst hrest
        obtain ⟨_, _, rfl⟩ := Finset.mem_image.1 hfirst
        have hle := le_of_mem_placed (List.mem_toFinset.1 (Finset.mem_sdiff.1 hrest).1)
        exact Nat.not_succ_le_self start hle
      rw [hsplit, Finset.card_union_of_disjoint hdisjoint, ih, List.map_cons, List.sum_cons,
        Finset.card_image_of_injective _ (Prod.mk_right_injective start)]

end Placed

namespace Grouping

theorem pairs_map {f : TaskRef → TaskRef} (hid : ∀ ref, (f ref).id = ref.id)
    (grouping : Grouping) : pairs (some (grouping.map (List.map f))) = pairs (some grouping) := by
  simp [pairs, OrderedMap.map, List.flatMap_map, Function.comp_def, hid]

end Grouping

theorem Groupings.nodup_pairs_of_project {tasks : List Task} (h : (tasks.map Task.id).Nodup)
    (place : Task → Option (String × String)) (owner : String) :
    (Grouping.pairs (some ((project place tasks).of owner))).Nodup := by
  rw [Grouping.pairs, Option.getD_some, List.nodup_flatMap]
  constructor
  · intro entry hmem
    obtain ⟨key, refs⟩ := entry
    have hfind := OrderedMap.mem_entries_iff.1 hmem
    rw [find?_of_project] at hfind
    split at hfind
    · cases hfind
    · cases hfind
      have hids : ((bucket place tasks owner key).map TaskRef.id).Nodup := by
        rw [bucket, List.map_map]
        exact h.sublist (List.filter_sublist.map Task.id)
      change ((bucket place tasks owner key).map fun ref => (key, ref.id)).Nodup
      have hpairs := hids.map (Prod.mk_right_injective key)
      rwa [List.map_map] at hpairs
  · have hkeys := List.pairwise_map.1 ((project place tasks).of owner).nodup_keys
    refine hkeys.imp ?_
    intro first second hne pair hfirst hsecond
    obtain ⟨_, _, rfl⟩ := List.mem_map.1 hfirst
    obtain ⟨_, _, heq⟩ := List.mem_map.1 hsecond
    exact hne (congrArg Prod.fst heq).symm

namespace Holder

/-- The key and the task of each reference. -/
def pairs (holder : Holder) : List (String × String) := Grouping.pairs holder.held

def entry (holder : Holder) : String × Option Grouping := (holder.owner, holder.held)

/-- Where tasks are filed: the place of the holder among those of its kind, the key, the task. -/
def spots (holders : List Holder) : Finset (Nat × String × String) :=
  (placed 0 (holders.map pairs)).toFinset

theorem nodup_pairs_change {tasks : List Task} (h : (tasks.map Task.id).Nodup)
    (place : Task → Option (String × String)) (holder : Holder) :
    (holder.change (Groupings.project place tasks).refiled).pairs.Nodup := by
  have hprojected := Groupings.projected_of_project place tasks holder.owner
  have hpairs := Groupings.nodup_pairs_of_project h place holder.owner
  simp only [pairs, change, Groupings.refiled, Grouping.refile_eq hprojected]
  cases holder.held with
  | none =>
      by_cases hgains : holder.gains = true ∧ (Groupings.project place tasks).of holder.owner ≠ ∅
      · rw [if_pos hgains]
        exact hpairs
      · rw [if_neg hgains]
        exact List.nodup_nil
  | some former =>
      have hsame := Grouping.pairs_map (f := TaskRef.inherit former.refs) (fun _ => rfl)
        ((Groupings.project place tasks).of holder.owner)
      rw [← hsame] at hpairs
      exact hpairs

section Sums

variable (f : Holder → Holder) (holders : List Holder)

theorem sumOver_entries (count : List (String × String) → List (String × String) → Nat) :
    Document.sumOver count (holders.map entry) ((holders.map f).map entry) =
      (holders.map fun holder => count holder.pairs (f holder).pairs).sum := by
  rw [Document.sumOver, List.map_map, List.zip_map', List.foldl_map, List.sum_eq_foldl,
    List.foldl_map]
  rfl

theorem sumOver_countGone :
    Document.sumOver countGone (holders.map entry) ((holders.map f).map entry) =
      (spots holders \ spots (holders.map f)).card := by
  rw [sumOver_entries, spots, spots, List.map_map, card_placed_sdiff]
  simp only [countGone_eq_card, Function.comp_apply]

theorem sumOver_countAdded (h : ∀ holder, (f holder).pairs.Nodup) :
    Document.sumOver countAdded (holders.map entry) ((holders.map f).map entry) =
      (spots (holders.map f) \ spots holders).card := by
  rw [sumOver_entries, spots, spots, List.map_map, card_placed_sdiff]
  simp only [countAdded_eq_card (h _), Function.comp_apply]

end Sums

end Holder

namespace Document

variable (doc : Document)

def nodeSpots : Finset (Nat × String × String) := Holder.spots doc.nodeHolders

def serviceSpots : Finset (Nat × String × String) := Holder.spots doc.serviceHolders

/-- The references without a node are one bucket of one holder. -/
def unassignedSpots : Finset (Nat × String × String) :=
  (doc.horizontal.unassigned.map fun ref => (0, Grouping.unassignedKey, ref.id)).toFinset

theorem nodeGroupings_eq : doc.nodeGroupings = doc.nodeHolders.map Holder.entry := by
  simp [nodeGroupings, nodeHolders, allNodes, Holder.ofNode, Holder.entry, Function.comp_def]

theorem serviceGroupings_eq : doc.serviceGroupings = doc.serviceHolders.map Holder.entry := by
  simp [serviceGroupings, serviceHolders, summaries, Holder.ofService, Holder.ofSummary,
    Holder.entry, Function.comp_def]

theorem card_unassignedSpots_sdiff (other : Document) :
    (doc.unassignedSpots \ other.unassignedSpots).card =
      ((doc.horizontal.unassigned.map TaskRef.id).toFinset \
        (other.horizontal.unassigned.map TaskRef.id).toFinset).card := by
  have hspots : ∀ doc : Document, doc.unassignedSpots =
      (doc.horizontal.unassigned.map TaskRef.id).toFinset.image fun id =>
        (0, Grouping.unassignedKey, id) := by
    intro doc
    ext spot
    simp [unassignedSpots]
  have hinjective : Function.Injective fun id : String => (0, Grouping.unassignedKey, id) := by
    intro id id' heq
    exact (Prod.mk.inj (Prod.mk.inj heq).2).2
  rw [hspots, hspots, ← Finset.image_sdiff _ _ hinjective,
    Finset.card_image_of_injective _ hinjective]

theorem nodup_taskIds_sync {doc : Document} (h : doc.taskIds.Nodup) : doc.sync.taskIds.Nodup := by
  have hnew := doc.newTasks_unlistedTasks
  change doc.backfill.taskIds.Nodup
  rw [taskIds_backfill, List.nodup_append]
  refine ⟨h, hnew.nodup, ?_⟩
  rintro id hold _ hadded rfl
  obtain ⟨task, htask, rfl⟩ := List.mem_map.1 hadded
  exact hnew.unlisted task htask hold

theorem nodup_unassigned_sync {doc : Document} (h : doc.taskIds.Nodup) :
    (doc.sync.horizontal.unassigned.map TaskRef.id).Nodup := by
  have hids : doc.sync.horizontal.unassigned.map TaskRef.id =
      (projectUnassigned doc.sync.tasks).map TaskRef.id := by
    rw [unassigned_sync, keepUntyped_eq_map, List.map_map]
    rfl
  rw [hids, projectUnassigned_eq, List.map_map]
  exact (nodup_taskIds_sync h).sublist (List.filter_sublist.map Task.id)

/-- What a synchronisation counts as gone are the places where a task was filed and is not any more,
whatever the document. -/
theorem staleRefsRemoved_eq_card :
    doc.syncStats.staleRefsRemoved =
      (doc.nodeSpots \ doc.sync.nodeSpots).card +
        (doc.unassignedSpots \ doc.sync.unassignedSpots).card +
        (doc.serviceSpots \ doc.sync.serviceSpots).card := by
  rw [card_unassignedSpots_sdiff]
  simp only [syncStats, viewChanges, nodeGroupings_eq, serviceGroupings_eq, nodeSpots,
    serviceSpots, nodeHolders_sync, serviceHolders_sync, Holder.sumOver_countGone,
    countGone_eq_card]

/-- Where no two tasks share an ID, a synchronisation counts the places where a task is filed and was
not before, for nodes, for services and for the references without a node, and over all three the
places where one was filed and is not any more. -/
theorem sync_counts_differences (doc : Document) (h : doc.taskIds.Nodup) :
    doc.syncStats.nodeRefsAdded = (doc.sync.nodeSpots \ doc.nodeSpots).card ∧
      doc.syncStats.serviceRefsAdded = (doc.sync.serviceSpots \ doc.serviceSpots).card ∧
      doc.syncStats.unassignedRefsAdded =
        (doc.sync.unassignedSpots \ doc.unassignedSpots).card ∧
      doc.syncStats.staleRefsRemoved =
        (doc.nodeSpots \ doc.sync.nodeSpots).card +
          (doc.unassignedSpots \ doc.sync.unassignedSpots).card +
          (doc.serviceSpots \ doc.sync.serviceSpots).card := by
  have hids := nodup_taskIds_sync h
  refine ⟨?_, ?_, ?_, doc.staleRefsRemoved_eq_card⟩
  · simp only [syncStats, viewChanges, nodeGroupings_eq, nodeSpots, nodeHolders_sync]
    exact Holder.sumOver_countAdded _ _ (Holder.nodup_pairs_change hids Task.nodePlace)
  · simp only [syncStats, viewChanges, serviceGroupings_eq, serviceSpots, serviceHolders_sync]
    exact Holder.sumOver_countAdded _ _ (Holder.nodup_pairs_change hids Task.servicePlace)
  · rw [card_unassignedSpots_sdiff]
    exact countAdded_eq_card (nodup_unassigned_sync h)

end Document

open Document

/-- A task that has moved to another node since it was filed, twice in one bucket. -/
def movedTask : Task := { id := "t", serviceId := some "s", nodeId := some "n2" }

def movedOn : Document where
  nodes :=
    [{ id := "n1", tasks := some (Grouping.append ∅ "s" [{ id := "t" }, { id := "t" }]) },
      { id := "n2" }]
  tasks := [movedTask]
  horizontal := { unassigned := [{ id := "t" }] }
  vertical := { services := [{ id := "s", tasks := some (Grouping.file ∅ "n1" { id := "t" }) }] }

theorem tasks_sync_movedOn : movedOn.sync.tasks = [movedTask] :=
  tasks_sync_of_refsListed (by unfold RefsListed; decide)

/-- The two references of the bucket that it leaves are gone as one. -/
theorem sync_counts_movedOn :
    movedOn.taskIds.Nodup ∧ movedOn.syncStats.nodeRefsAdded = 1 ∧
      movedOn.syncStats.serviceRefsAdded = 1 ∧ movedOn.syncStats.unassignedRefsAdded = 0 ∧
      movedOn.syncStats.staleRefsRemoved = 3 := by
  have hdistinct : movedOn.taskIds.Nodup := by decide
  obtain ⟨hnodes, hservices, hunassigned, hstale⟩ := sync_counts_differences movedOn hdistinct
  have hnodeSpots : movedOn.sync.nodeSpots = {(1, "s", "t")} := by
    rw [nodeSpots, nodeHolders_sync, tasks_sync_movedOn]
    rfl
  have hserviceSpots : movedOn.sync.serviceSpots = {(0, "n2", "t")} := by
    rw [serviceSpots, serviceHolders_sync, tasks_sync_movedOn]
    rfl
  have hunassignedSpots : movedOn.sync.unassignedSpots = ∅ := by
    rw [unassignedSpots, unassigned_sync, tasks_sync_movedOn]
    rfl
  rw [hnodes, hservices, hunassigned, hstale, hnodeSpots, hserviceSpots, hunassignedSpots]
  decide

end MockCluster
