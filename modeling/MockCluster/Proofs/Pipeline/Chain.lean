import MockCluster.Proofs.Pipeline.Convergence
import MockCluster.Proofs.Pipeline.Stale

/-!
A document in which every repair finds work.

Its only node moves to the ID that the next task waits for.  The synchronisation after that files
the task, and the service of the task has the new ID of the node, so the next repair moves it again.
-/

namespace MockCluster

open Document

/-- The IDs that the node goes through. -/
def link : Nat → String
  | 0 => "a"
  | n + 1 => "node-" ++ link n

theorem length_link (n : Nat) : (link n).length = 5 * n + 1 := by
  induction n with
  | zero => rfl
  | succ n ih =>
      have hnode : "node-".length = 5 := by decide
      rw [link, String.length_append, ih, hnode]
      omega

theorem link_injective : Function.Injective link := by
  intro m n heq
  have hlength := congrArg String.length heq
  rw [length_link, length_link] at hlength
  omega

theorem link_ne_empty (n : Nat) : link n ≠ "" := by
  intro heq
  have hlength := congrArg String.length heq
  rw [length_link] at hlength
  exact absurd hlength (Nat.succ_ne_zero _)

theorem link_ne_unassignedKey (n : Nat) : link n ≠ Grouping.unassignedKey := by
  intro heq
  have hkey : Grouping.unassignedKey.length = 10 := by decide
  have hlength := congrArg String.length heq
  rw [length_link, hkey] at hlength
  omega

def waitingTask (i : Nat) : Task where
  id := link i
  serviceId := some (link i)
  nodeId := some (link i)

def chain (size : Nat) : Document where
  nodes := [{ id := link 0 }]
  services := [{ id := link 0 }]
  tasks := (List.range' 1 size).map waitingTask

/-- The chain when the node has moved so many times, together with the tasks it has reached. -/
structure Chained (size moves : Nat) (doc : Document) : Prop where
  refsListed : doc.RefsListed
  nodes : doc.nodeListings = [[link moves], [], []]
  services : doc.serviceListings = [[link 0], [], [], []]
  tasks : doc.tasks.map (fun task => (task.id, task.serviceId, task.nodeId)) =
    (List.range' 1 size).map fun i => (link i, some (link i), some (link (max i moves)))

namespace Chained

theorem of_chain (size : Nat) : Chained size 0 (chain size) where
  refsListed _ hmem := absurd hmem List.not_mem_nil
  nodes := rfl
  services := rfl
  tasks := by simp [chain, waitingTask, Function.comp_def]

variable {size moves : Nat} {doc : Document} (h : Chained size moves doc)

include h

theorem nodeIds_eq : doc.nodeIds = [link moves] := by
  rw [← flatten_nodeListings, h.nodes]
  rfl

theorem serviceIds_eq : doc.serviceIds = [link 0] := (List.cons.inj h.services).1

theorem listedServiceIds_eq : doc.listedServiceIds = [link 0] := by
  rw [← flatten_serviceListings, h.services]
  rfl

theorem unrecorded_eq_nil : doc.unrecorded = [] := by
  rw [unrecorded_eq_nil_iff, h.listedServiceIds_eq, h.serviceIds_eq]
  exact fun _ hmem _ => hmem

theorem taskIds_eq : doc.taskIds = (List.range' 1 size).map link := by
  have hids := congrArg (List.map Prod.fst) h.tasks
  rw [List.map_map, List.map_map] at hids
  exact hids

theorem distinctTasks : doc.DistinctTasks := by
  have hnodup : doc.taskIds.Nodup := by
    rw [h.taskIds_eq]
    exact List.Nodup.map link_injective List.nodup_range'
  exact hnodup.sublist (List.filter_sublist.map _)

theorem exists_task {i : Nat} (hi : i ∈ List.range' 1 size) :
    ∃ task ∈ doc.tasks, task.serviceId = some (link i) ∧
      task.nodeId = some (link (max i moves)) := by
  have hmem : (link i, some (link i), some (link (max i moves))) ∈
      doc.tasks.map fun task => (task.id, task.serviceId, task.nodeId) := by
    rw [h.tasks]
    exact List.mem_map.2 ⟨i, hi, rfl⟩
  obtain ⟨task, htask, heq⟩ := List.mem_map.1 hmem
  simp only [Prod.mk.injEq] at heq
  exact ⟨task, htask, heq.2⟩

theorem exists_index {task : Task} (htask : task ∈ doc.tasks) :
    ∃ i, task.serviceId = some (link i) ∧ task.nodeId = some (link (max i moves)) := by
  have hmem := List.mem_map_of_mem (f := fun task : Task => (task.id, task.serviceId, task.nodeId))
    htask
  rw [h.tasks] at hmem
  obtain ⟨i, _, heq⟩ := List.mem_map.1 hmem
  simp only [Prod.mk.injEq] at heq
  exact ⟨i, heq.2.1.symm, heq.2.2.symm⟩

theorem exists_node : ∃ node, doc.roster = [node] ∧ node ∈ doc.allNodes ∧ node.id = link moves := by
  have hprimary : doc.nodes.map Node.id = [link moves] := (List.cons.inj h.nodes).1
  have hhorizontal : doc.horizontal.nodes.map Node.id = [] :=
    (List.cons.inj (List.cons.inj h.nodes).2).1
  obtain ⟨node, hnode, hid⟩ := List.map_eq_singleton_iff.1 hprimary
  refine ⟨node, ?_, ?_, hid⟩
  · simp [roster, usesHorizontalRoster, List.map_eq_nil_iff.1 hhorizontal, hnode]
  · simp [allNodes, hnode]

theorem eq_of_mem_allNodes {node : Node} (hnode : node ∈ doc.allNodes) : node.id = link moves := by
  have hmem : node.id ∈ doc.nodeIds := List.mem_map_of_mem hnode
  rw [h.nodeIds_eq] at hmem
  exact List.mem_singleton.1 hmem

theorem sync : Chained size moves doc.sync := by
  have hsame := sameListings_sync doc
  refine ⟨doc.refsListed_sync, hsame.nodes.trans h.nodes, hsame.services.trans h.services, ?_⟩
  rw [tasks_sync_of_refsListed h.refsListed]
  exact h.tasks

end Chained

/-- The views are in line, so the next repair moves the node. -/
structure Waiting (size moves : Nat) (doc : Document) : Prop where
  chained : Chained size moves doc
  synced : doc.Synced

/-- The node has moved, and the task that waited for it has not been filed. -/
structure Moved (size moves : Nat) (doc : Document) : Prop where
  chained : Chained size moves doc
  moved : 0 < moves
  unfiled : link moves ∉ doc.nodeKeys

variable {size moves : Nat} {doc : Document}

theorem Waiting.namesService (h : Waiting size moves doc) (hmoves : moves ≤ size) :
    doc.NamesService (link moves) := by
  cases moves with
  | zero => exact .inl (h.chained.listedServiceIds_eq ▸ List.mem_singleton_self _)
  | succ moves =>
      refine .inr ⟨?_, link_ne_unassignedKey _⟩
      obtain ⟨node, hroster, _, hid⟩ := h.chained.exists_node
      obtain ⟨task, htask, hservice, hplace⟩ := h.chained.exists_task
        (List.mem_range'_1.2 ⟨Nat.succ_pos moves, by omega⟩)
      rw [Nat.max_self, ← hid] at hplace
      exact h.synced.mem_nodeKeys_of_roster (hroster ▸ List.mem_singleton_self _) htask hplace
        hservice

theorem Waiting.next_not_mem_nodeKeys (h : Waiting size moves doc) :
    link (moves + 1) ∉ doc.nodeKeys := by
  intro hkey
  obtain ⟨task, htask, hservice, node, hnode, hplace, _⟩ := h.synced.mem_nodeKeys.1 hkey
  obtain ⟨i, hservice', hplace'⟩ := h.chained.exists_index htask
  rw [h.chained.eq_of_mem_allNodes hnode, hplace'] at hplace
  rw [hservice'] at hservice
  have hi : i = moves + 1 := link_injective (Option.some.inj hservice)
  have hmax : max i moves = moves := link_injective (Option.some.inj hplace)
  omega

theorem Waiting.renames_eq (h : Waiting size moves doc) (hmoves : moves ≤ size) :
    doc.renames = [⟨link moves, link (moves + 1)⟩] := by
  refine renames_eq_singleton h.chained.nodeIds_eq (link_ne_empty _)
    (h.namesService hmoves) ?_
  intro hgiven
  rcases hgiven with hlisted | ⟨hkey, _⟩
  · rw [h.chained.listedServiceIds_eq, List.mem_singleton] at hlisted
    exact absurd (link_injective (show link (moves + 1) = link 0 from hlisted)) (Nat.succ_ne_zero _)
  · exact h.next_not_mem_nodeKeys hkey

theorem target_link (i moves : Nat) :
    Renames.target [⟨link moves, link (moves + 1)⟩] (link (max i moves)) =
      link (max i (moves + 1)) := by
  by_cases hi : i ≤ moves
  · rw [Nat.max_eq_right hi, Nat.max_eq_right (Nat.le_succ_of_le hi)]
    simp [Renames.target, Renames.find?]
  · have hne : link moves ≠ link i := fun heq => hi (link_injective heq ▸ Nat.le_refl moves)
    rw [Nat.max_eq_left (by omega), Nat.max_eq_left (by omega)]
    simp [Renames.target, Renames.find?, hne]

theorem Waiting.nodeListings_renamed (h : Waiting size moves doc) (hmoves : moves ≤ size)
    (settings : RepairSettings) :
    (doc.renamed settings).nodeListings = [[link (moves + 1)], [], []] := by
  have htarget := target_link 0 moves
  rw [Nat.zero_max, Nat.zero_max] at htarget
  rw [Document.nodeListings_renamed, h.chained.nodes, h.renames_eq hmoves]
  simp only [List.map_cons, List.map_nil, htarget]

theorem Waiting.tasks_renamed (h : Waiting size moves doc) (hmoves : moves ≤ size)
    (settings : RepairSettings) :
    (doc.renamed settings).tasks.map (fun task => (task.id, task.serviceId, task.nodeId)) =
      (List.range' 1 size).map fun i =>
        (link i, some (link i), some (link (max i (moves + 1)))) := by
  have hmoved := congrArg (List.map fun (facts : String × Option String × Option String) =>
    (facts.1, facts.2.1, facts.2.2.map (Renames.target doc.renames))) h.chained.tasks
  rw [List.map_map, List.map_map] at hmoved
  have hrenamed : (doc.renamed settings).tasks =
      doc.tasks.map (Renames.substitution doc.renames settings.renamesInUntyped).task := by
    rw [Document.renamed, if_neg]
    · rfl
    · simp [h.renames_eq hmoves]
  rw [hrenamed, List.map_map]
  refine hmoved.trans (List.map_congr_left fun i _ => ?_)
  simp only [Function.comp_apply, Option.map_some, h.renames_eq hmoves, target_link]

theorem Waiting.repaired (h : Waiting size moves doc) (hmoves : moves ≤ size)
    (settings : RepairSettings) : Moved size (moves + 1) (doc.repaired settings) := by
  have hrepaired : doc.repaired settings = doc.renamed settings := by
    rw [Document.repaired, backfill_of_refsListed h.chained.refsListed,
      recorded_of_unrecorded_eq_nil _ fun _ => h.chained.unrecorded_eq_nil]
  rw [hrepaired]
  refine ⟨⟨?_, ?_, ?_, ?_⟩, Nat.succ_pos moves, ?_⟩
  · exact refsListed_renamed settings h.chained.refsListed
  · exact h.nodeListings_renamed hmoves settings
  · rw [serviceListings_renamed, h.chained.services]
  · exact h.tasks_renamed hmoves settings
  · rw [nodeKeys_renamed]
    exact h.next_not_mem_nodeKeys

theorem Moved.settled (h : Moved size moves doc) (settings : RepairSettings) :
    doc.Settled settings := by
  refine ⟨h.chained.refsListed, fun _ => h.chained.unrecorded_eq_nil, ?_⟩
  rw [renames_eq_nil_iff, h.chained.nodeIds_eq]
  intro id hmem _
  rw [List.mem_singleton.1 hmem]
  intro hgiven
  rcases hgiven with hlisted | ⟨hkey, _⟩
  · rw [h.chained.listedServiceIds_eq, List.mem_singleton] at hlisted
    exact absurd (link_injective hlisted) (Nat.pos_iff_ne_zero.1 h.moved)
  · exact h.unfiled hkey

theorem Moved.not_synced (h : Moved size moves doc) (hmoves : moves ≤ size) : ¬ doc.Synced := by
  intro hsynced
  obtain ⟨node, hroster, _, hid⟩ := h.chained.exists_node
  obtain ⟨task, htask, hservice, hplace⟩ := h.chained.exists_task
    (List.mem_range'_1.2 ⟨h.moved, by omega⟩)
  rw [Nat.max_self, ← hid] at hplace
  exact h.unfiled (hsynced.mem_nodeKeys_of_roster (hroster ▸ List.mem_singleton_self _) htask
    hplace hservice)

/-- One stage moves the node at most once. -/
theorem exists_waiting_or_moved_effect (now : Instant) (stage : Stage) {bound : Nat}
    (hbound : bound ≤ size)
    (h : ∃ moves ≤ bound, Waiting size moves doc ∨ Moved size moves doc) :
    ∃ moves ≤ bound + 1, Waiting size moves (stage.effect (.servicesOnly 0) now doc) ∨
      Moved size moves (stage.effect (.servicesOnly 0) now doc) := by
  obtain ⟨moves, hmoves, h⟩ := h
  -- A repair moves a waiting node, a synchronisation lets it wait again, nothing else touches it.
  have hchained : Chained size moves doc := h.elim Waiting.chained Moved.chained
  by_cases hrepair : stage = .repairReferences
  · subst hrepair
    rcases h with h | h
    · exact ⟨moves + 1, by omega, .inr (h.repaired (by omega) _)⟩
    · refine ⟨moves, by omega, .inr ?_⟩
      change Moved size moves (doc.repaired _)
      rwa [(h.settled _).repaired_eq]
  · by_cases hsync : stage = .syncViews
    · subst hsync
      exact ⟨moves, by omega, .inl ⟨hchained.sync, synced_sync doc⟩⟩
    · refine ⟨moves, by omega, ?_⟩
      rwa [Stage.effect_eq_self rfl (fun _ => ensured_zero doc) (fun heq => absurd heq hrepair)
        (fun _ => hchained.distinctTasks) (fun heq => absurd heq hsync)]

theorem exists_waiting_or_moved (now : Instant) (plan : Plan) (hsize : plan.length ≤ size) :
    ∃ moves ≤ plan.length,
      Waiting size moves (plan.effect (.servicesOnly 0) now (chain size).sync) ∨
        Moved size moves (plan.effect (.servicesOnly 0) now (chain size).sync) := by
  induction plan using List.reverseRecOn with
  | nil => exact ⟨0, Nat.le_refl 0, .inl ⟨(Chained.of_chain size).sync, synced_sync _⟩⟩
  | append_singleton plan stage ih =>
      rw [List.length_append, List.length_singleton] at hsize ⊢
      rw [Plan.effect_append]
      exact exists_waiting_or_moved_effect now stage (by omega) (ih (by omega))

theorem not_synced_effect_chain (now : Instant) {before after : Plan}
    (hafter : .syncViews ∉ after) :
    ¬ (Plan.effect (.servicesOnly 0) now (before ++ .repairReferences :: after)
      (chain (before.length + 1)).sync).Synced := by
  obtain ⟨moves, hmoves, h⟩ := exists_waiting_or_moved now before (Nat.le_succ before.length)
  rw [Plan.effect_append]
  generalize before.effect (.servicesOnly 0) now (chain (before.length + 1)).sync = doc at h ⊢
  obtain ⟨moves, hmoves, hmoved⟩ : ∃ moves ≤ before.length + 1,
      Moved (before.length + 1) moves (doc.repaired (Settings.servicesOnly 0).repair) := by
    rcases h with h | h
    · exact ⟨moves + 1, by omega, h.repaired (by omega) _⟩
    · exact ⟨moves, by omega, (h.settled _).repaired_eq.symm ▸ h⟩
  change ¬ (Plan.effect (.servicesOnly 0) now after (doc.repaired _)).Synced
  rw [Plan.effect_eq_self]
  · exact hmoved.not_synced hmoves
  · intro stage hmem
    refine Stage.effect_eq_self rfl (fun _ => ensured_zero _) (fun _ => hmoved.settled _)
      (fun _ => hmoved.chained.distinctTasks) (fun heq => ?_) now
    exact absurd (heq ▸ hmem) hafter

end MockCluster
