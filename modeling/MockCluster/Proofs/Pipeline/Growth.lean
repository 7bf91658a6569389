import MockCluster.Proofs.Pipeline.Separation

/-!
What stays true while stages run: listed tasks stay listed, different task IDs stay different,
recorded services stay recorded, and there is a place for tasks afterwards if there was one before.
So a synthesis, once run, has nothing left to fill in.
-/

namespace MockCluster

open Document

namespace Document

theorem taskIds_subset_repaired (settings : RepairSettings) (doc : Document) :
    doc.taskIds ⊆ (doc.repaired settings).taskIds := by
  rw [repaired, taskIds_renamed, taskIds, taskIds, tasks_recorded]
  exact doc.taskIds_subset_backfill

theorem distinctTasks_renamed (settings : RepairSettings) {doc : Document}
    (h : doc.DistinctTasks) : (doc.renamed settings).DistinctTasks := by
  unfold renamed
  split
  next => exact h
  next =>
    rw [DistinctTasks, Duplicates.taskLikeIds] at h ⊢
    simpa [Substitution.document, List.filter_map, Function.comp_def] using h

theorem DistinctTasks.append {doc : Document} {tasks : List Task} (h : doc.DistinctTasks)
    (hnew : doc.NewTasks tasks) : (Duplicates.taskLikeIds (doc.tasks ++ tasks)).Nodup := by
  rw [Duplicates.taskLikeIds_append, List.nodup_append]
  refine ⟨h, hnew.nodup.sublist (List.filter_sublist.map _), ?_⟩
  rintro id hold _ hadded rfl
  obtain ⟨task, htask, rfl⟩ := List.mem_map.1 hadded
  obtain ⟨old, hold, hid⟩ := List.mem_map.1 hold
  apply hnew.unlisted task (List.mem_of_mem_filter htask)
  exact hid ▸ List.mem_map_of_mem (List.mem_of_mem_filter hold)

theorem DistinctTasks.insertAll {doc : Document} {tasks : List Task} (h : doc.DistinctTasks)
    (hnew : doc.NewTasks tasks) : (doc.insertAll tasks).DistinctTasks := by
  rw [DistinctTasks, tasks_insertAll]
  exact h.append hnew

theorem DistinctTasks.repaired {doc : Document} (h : doc.DistinctTasks)
    (settings : RepairSettings) : (doc.repaired settings).DistinctTasks := by
  apply distinctTasks_renamed settings
  rw [DistinctTasks, tasks_recorded]
  exact h.append doc.newTasks_unlistedTasks

/-- Only which IDs are empty decides whether there is a place for tasks. -/
theorem hasPlacement_iff_of_nodeListings {before after : Document} {f : String → String}
    (hf : ∀ id, f id = "" ↔ id = "")
    (h : after.nodeListings = before.nodeListings.map (List.map f)) :
    after.HasPlacement ↔ before.HasPlacement := by
  obtain ⟨hprimary, hrest⟩ := List.cons.inj h
  obtain ⟨hhorizontal, _⟩ := List.cons.inj hrest
  change after.nodes.map Node.id = (before.nodes.map Node.id).map f at hprimary
  change after.horizontal.nodes.map Node.id = (before.horizontal.nodes.map Node.id).map f
    at hhorizontal
  rw [hasPlacement_iff, hasPlacement_iff, hprimary, hhorizontal]
  generalize before.nodes.map Node.id = primary
  cases before.horizontal.nodes.map Node.id <;> simp [hf]

theorem hasPlacement_iff_of_nodeListings_eq {before after : Document}
    (h : after.nodeListings = before.nodeListings) : after.HasPlacement ↔ before.HasPlacement :=
  hasPlacement_iff_of_nodeListings (f := id) (fun _ => Iff.rfl) (by simp [h])

end Document

section Stages

variable (settings : Settings) (now : Instant) (stage : Stage)

theorem Stage.taskIds_subset_effect (doc : Document) :
    doc.taskIds ⊆ (stage.effect settings now doc).taskIds := by
  cases stage with
  | ensureServices =>
      change doc.taskIds ⊆ (doc.ensured now _).tasks.map Task.id
      rw [tasks_ensured]
      exact List.Subset.refl _
  | synthesizeTasks => exact taskIds_subset_synthesized
  | synthesizeExtraTasks => exact taskIds_subset_extraSynthesized
  | repairReferences => exact taskIds_subset_repaired settings.repair doc
  | dedupeTasks => exact taskIds_subset_deduped doc
  | syncViews => exact doc.taskIds_subset_backfill

theorem Stage.distinctTasks_effect {doc : Document} (h : doc.DistinctTasks) :
    (stage.effect settings now doc).DistinctTasks := by
  cases stage with
  | ensureServices =>
      change (Duplicates.taskLikeIds (doc.ensured now _).tasks).Nodup
      rwa [tasks_ensured]
  | synthesizeTasks => exact h.insertAll newTasks_rotated
  | synthesizeExtraTasks =>
      change (doc.extraSynthesized now _).DistinctTasks
      unfold extraSynthesized
      split
      next => exact h
      next first _ => exact h.insertAll (newTasks_extra first)
  | repairReferences => exact h.repaired settings.repair
  | dedupeTasks => exact distinctTasks_deduped doc
  | syncViews => exact h.append doc.newTasks_unlistedTasks

theorem Stage.hasPlacement_effect_iff (doc : Document) :
    (stage.effect settings now doc).HasPlacement ↔ doc.HasPlacement := by
  cases stage with
  | ensureServices => exact hasPlacement_iff_of_nodeListings_eq (nodeListings_ensured now _ doc)
  | synthesizeTasks => exact hasPlacement_iff_of_nodeListings_eq sameListings_synthesized.nodes
  | synthesizeExtraTasks =>
      exact hasPlacement_iff_of_nodeListings_eq sameListings_extraSynthesized.nodes
  | repairReferences =>
      refine (hasPlacement_iff_of_nodeListings (fun _ => target_renames_eq_empty_iff)
        (nodeListings_renamed settings.repair _)).trans (hasPlacement_iff_of_nodeListings_eq ?_)
      exact nodeListings_recorded settings.repair doc.backfill
  | dedupeTasks => exact hasPlacement_iff_of_nodeListings_eq rfl
  | syncViews => exact hasPlacement_iff_of_nodeListings_eq (sameListings_sync doc).nodes

end Stages

section Plans

variable (settings : Settings) (now : Instant) (plan : Plan)

theorem Plan.taskIds_subset_effect (doc : Document) :
    doc.taskIds ⊆ (plan.effect settings now doc).taskIds :=
  plan.rel_effect settings now (r := fun before after => before.taskIds ⊆ after.taskIds)
    (fun _ => List.Subset.refl _) List.Subset.trans (Stage.taskIds_subset_effect settings now) doc

theorem Plan.hasPlacement_effect_iff (doc : Document) :
    (plan.effect settings now doc).HasPlacement ↔ doc.HasPlacement :=
  plan.rel_effect settings now (r := fun before after => after.HasPlacement ↔ before.HasPlacement)
    (fun _ => Iff.rfl) (fun h h' => h'.trans h) (Stage.hasPlacement_effect_iff settings now) doc

theorem Plan.ensured_effect {count : Nat} {doc : Document} (h : doc.Ensured count) :
    (plan.effect settings now doc).Ensured count := by
  intro i hi
  obtain ⟨grown, hgrown, hgrows⟩ := plan.serviceIdsKept_effect settings now doc 0 _ rfl
  cases hgrown
  exact hgrows.subset (h i hi)

end Plans

/-- Nothing is left for a synthesis to create. -/
structure Document.Filled (settings : SynthesisSettings) (doc : Document) : Prop where
  services : doc.Ensured settings.serviceCount
  tasks : doc.HasSynthetic settings.taskServices
  extras : doc.HasPlacement → doc.HasExtras settings.taskServices

namespace Plan

/-- The stages of a synthesis before its views are synchronised. -/
def fill : Plan := [.ensureServices, .synthesizeTasks, .synthesizeExtraTasks]

/-- What one stage has filled in, the stages behind it keep. -/
theorem filled_effect (settings : Settings) (now : Instant) (after : Plan) (doc : Document) :
    (Plan.effect settings now (fill ++ after) doc).Filled settings.synthesis := by
  let ensured := doc.ensured now settings.synthesis.serviceCount
  let listed := ensured.synthesized now settings.synthesis.taskServices
  let extended := listed.extraSynthesized now settings.synthesis.taskServices
  refine ⟨?_, ?_, ?_⟩
  · change (Plan.effect settings now (.synthesizeTasks :: .synthesizeExtraTasks :: after)
      ensured).Ensured _
    exact ensured_effect settings now _ (ensured_ensured now _ doc)
  · change (Plan.effect settings now (.synthesizeExtraTasks :: after) listed).HasSynthetic _
    intro number hnumber
    exact Plan.taskIds_subset_effect settings now _ _ (hasSynthetic_synthesized number hnumber)
  · change (after.effect settings now extended).HasPlacement →
      (after.effect settings now extended).HasExtras _
    intro hplacement i hi
    rw [Plan.hasPlacement_effect_iff] at hplacement
    have hearlier : listed.HasPlacement :=
      (hasPlacement_iff_of_nodeListings_eq sameListings_extraSynthesized.nodes).1 hplacement
    exact Plan.taskIds_subset_effect settings now _ _ (hasExtras_extraSynthesized hearlier i hi)

/-- After a synthesis, whatever came behind it, there is nothing more to fill in. -/
theorem effect_fill_effect (settings : Settings) (now later : Instant) (after : Plan)
    (doc : Document) :
    let once := Plan.effect settings now (fill ++ after) doc
    fill.effect settings later once = once := by
  intro once
  have hfilled : once.Filled settings.synthesis := filled_effect settings now after doc
  change ((once.ensured later _).synthesized later _).extraSynthesized later _ = once
  rw [ensured_of_ensured hfilled.services, synthesized_of_hasSynthetic hfilled.tasks,
    extraSynthesized_of_hasExtras hfilled.extras]

end Plan

end MockCluster
