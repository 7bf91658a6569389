import MockCluster.Proofs.Pipeline.Convergence
import MockCluster.Proofs.Repair.Findings

/-!
The warnings of a repair, set against a validation of the document that the run leaves.

The validation belongs to the first stage.  The stages after it give tasks new IDs and make the
groupings anew, so a validation at the end tells of the same records and references, but by the new
IDs, and of the keys that the groupings have then.
-/

namespace MockCluster

namespace Document

variable {doc : Document}

theorem exists_mem_serviceHolders {owner : String} {held : Option Grouping}
    (h : (owner, held) ∈ doc.serviceGroupings) :
    ∃ gains, ⟨gains, owner, held⟩ ∈ doc.serviceHolders := by
  simp only [serviceGroupings, summaries, List.map_append, List.mem_append, List.mem_map,
    Prod.mk.injEq] at h
  simp only [serviceHolders, List.mem_append, List.mem_map]
  rcases h with ⟨service, hmem, rfl, rfl⟩ | ⟨summary, hmem, rfl, rfl⟩ | ⟨summary, hmem, rfl, rfl⟩
  · exact ⟨false, .inl (.inl ⟨service, hmem, rfl⟩)⟩
  · exact ⟨false, .inl (.inr ⟨summary, hmem, rfl⟩)⟩
  · exact ⟨true, .inr ⟨summary, hmem, rfl⟩⟩

end Document

namespace Store

/-- The findings about the keys that groupings of nodes would have by the task list. -/
def projectedServiceKeyFindings (store : Store) : Findings :=
  store.doc.allNodes.flatMap fun node =>
    (store.danglingKeys .service
      (node.tasks.map fun _ => (projectNodes store.doc.tasks).of node.id)).map
      (Finding.danglingKey node.id .danglingGroupingServiceKey)

/-- The findings about the keys that groupings of services would have by the task list. -/
def projectedNodeKeyFindings (store : Store) : Findings :=
  store.doc.serviceGroupings.flatMap fun (id, grouping) =>
    (store.danglingKeys .node
      (grouping.map fun _ => (projectServices store.doc.tasks).of id)).map
      (Finding.danglingKey id .danglingGroupingNodeKey)

variable {store : Store}

theorem projectedServiceKeyFindings_of_no_tasks (h : store.doc.tasks = []) :
    store.projectedServiceKeyFindings = [] := by
  apply List.flatMap_eq_nil_iff.2
  intro node _
  rw [h]
  cases node.tasks <;> rfl

variable (h : store.doc.Synced)

include h

theorem findingsOf_serviceKey_of_synced :
    store.findingsOf .danglingGroupingServiceKey = store.projectedServiceKeyFindings := by
  apply List.flatMap_congr
  intro node hnode
  obtain ⟨gains, hholder⟩ := Document.exists_ofNode_mem_nodeHolders hnode
  have hkeys := Holder.keys_of_refiled (h.nodes _ hholder)
  simp only [Holder.ofNode] at hkeys
  simp only [danglingKeys, hkeys]
  rfl

theorem findingsOf_nodeKey_of_synced :
    store.findingsOf .danglingGroupingNodeKey = store.projectedNodeKeyFindings := by
  apply List.flatMap_congr
  rintro ⟨owner, held⟩ hmem
  obtain ⟨gains, hholder⟩ := Document.exists_mem_serviceHolders hmem
  have hkeys := Holder.keys_of_refiled (h.services _ hholder)
  simp only at hkeys
  simp only [danglingKeys, hkeys]
  rfl

end Store

theorem Plan.findings_runFrom_repair (settings : Settings) (now : Instant) (source : String)
    (doc : Document) (summary : RunSummary) :
    (repair.runFrom settings now (Store.of source doc, summary)).2.findings =
      summary.findings ++ ((Store.of source doc).repair settings.repair).2.findings ++
        (doc.repaired settings.repair).resolved.2.map Finding.duplicateRenamed ++
        (doc.repaired settings.repair).deduped.unlistedTasks.map Finding.backfilled := by
  have hrepair : (Store.of source doc).repair settings.repair =
      (Store.of source (doc.repaired settings.repair),
        ((Store.of source doc).repair settings.repair).2) :=
    Prod.ext (Store.fst_repair_of source doc settings.repair) rfl
  have hdedupe := Document.dedupe_of source (doc.repaired settings.repair)
  simp only [runFrom, repair, List.foldl_cons, List.foldl_nil, Stage.run]
  rw [hrepair, hdedupe]
  rfl

theorem Plan.warnings_run_repair (settings : Settings) (now : Instant) (source : String)
    (doc : Document) :
    (repair.run settings now (Store.of source doc)).2.findings.warnings =
      (Store.of source (doc.repaired settings.repair)).referenceFindings := by
  have hduplicates := Findings.warnings_map_eq_nil (f := Finding.duplicateRenamed) fun _ => rfl
  have hbackfilled := Findings.warnings_map_eq_nil (f := Finding.backfilled) fun _ => rfl
  change Findings.warnings (repair.runFrom settings now _).2.findings = _
  rw [findings_runFrom_repair, Findings.warnings_append, Findings.warnings_append,
    Findings.warnings_append, hduplicates, hbackfilled, Store.warnings_repair,
    Store.fst_repair_of, List.append_nil, List.append_nil]
  rfl

/-- The warnings of a repair are those of a validation after its first stage, the check.  On the
document that the run leaves, a validation tells of the same repeated IDs.  Each task is in the place
where it was checked, and the same is told of its references, by the ID that it has then.  What is
told of grouping keys is about those that the task list gives to the records with a grouping. -/
theorem repair_warnings (settings : Settings) (now : Instant) (source : String) (doc : Document) :
    let outcome := Plan.repair.run settings now (Store.of source doc)
    let final := outcome.1
    let warnings := outcome.2.findings.warnings
    let checked := ((Store.of source doc).repair settings.repair).1
    warnings = checked.referenceFindings ∧
      (∀ code ∈ [FindingCode.duplicateNodeId, .duplicateServiceId],
        final.referenceFindings.withCode code = warnings.withCode code) ∧
      List.Forall₂ (Duplicates.RenamedBy outcome.2.duplicatesRenamed) checked.doc.tasks
        final.doc.tasks ∧
      (∀ check ∈ [(FindingCode.danglingServiceRef, checked.serviceRefFindings),
          (.danglingNodeRef, checked.nodeRefFindings)],
        warnings.withCode check.1 = checked.doc.tasks.flatMap check.2 ∧
          final.referenceFindings.withCode check.1 =
            Findings.reportedAt check.2 checked.doc.tasks final.doc.tasks) ∧
      final.referenceFindings.withCode .danglingGroupingServiceKey =
        final.projectedServiceKeyFindings ∧
      final.referenceFindings.withCode .danglingGroupingNodeKey =
        final.projectedNodeKeyFindings := by
  intro outcome final warnings checked
  let repaired := doc.repaired settings.repair
  have hchecked : checked = Store.of source repaired :=
    Store.fst_repair_of source doc settings.repair
  have hfinal : final = Store.of source repaired.deduped.sync :=
    Plan.fst_run_of settings now Plan.repair source doc
  have hrenames : outcome.2.duplicatesRenamed = repaired.resolved.2 :=
    (Plan.snd_runFrom_repair settings now source doc { stages := Plan.repair }).2.1
  have hwarnings : warnings = (Store.of source repaired).referenceFindings :=
    Plan.warnings_run_repair settings now source doc
  have hsame : Document.SameListings repaired repaired.deduped.sync :=
    (Document.sameListings_deduped _).trans (Document.sameListings_sync _)
  have hunlisted : repaired.deduped.unlistedTasks = [] := Document.unlistedTasks_eq_nil_iff.2
    (Document.refsListed_deduped (Document.settled_repaired settings.repair doc).refsListed)
  have htasks : repaired.deduped.sync.tasks = repaired.resolved.1 := by
    rw [Document.tasks_sync, hunlisted, List.append_nil]
    rfl
  have hresolved : List.Forall₂ (Duplicates.RenamedBy repaired.resolved.2) repaired.tasks
      repaired.deduped.sync.tasks :=
    htasks ▸ Duplicates.forall₂_renamedBy ∅ (IdSet.ofList repaired.taskIds) repaired.tasks
  have hsynced : final.doc.Synced := hfinal ▸ repaired.deduped.synced_sync
  refine ⟨hwarnings.trans (congrArg _ hchecked.symm), ?_, ?_, ?_, ?_, ?_⟩
  · rw [hwarnings, hfinal]
    simp only [Store.withCode_referenceFindings, List.forall_mem_cons]
    obtain ⟨hnodes, hservices⟩ := Store.findingsOf_duplicates_of_sameListings hsame source
    exact ⟨hnodes, hservices, List.forall_mem_nil _⟩
  · rw [hchecked, hfinal, hrenames]
    exact hresolved
  · rw [hwarnings, hchecked, hfinal]
    simp only [Store.withCode_referenceFindings, List.forall_mem_cons]
    refine ⟨⟨rfl, ?_⟩, ⟨rfl, ?_⟩, List.forall_mem_nil _⟩
    · change repaired.deduped.sync.tasks.flatMap _ = _
      rw [Store.serviceRefFindings_of_sameListings hsame]
      exact (Store.addressed_serviceRefFindings _).flatMap_eq_reportedAt hresolved
    · change repaired.deduped.sync.tasks.flatMap _ = _
      rw [Store.nodeRefFindings_of_sameListings hsame]
      exact (Store.addressed_nodeRefFindings _).flatMap_eq_reportedAt hresolved
  · rw [Store.withCode_referenceFindings, Store.findingsOf_serviceKey_of_synced hsynced]
  · rw [Store.withCode_referenceFindings, Store.findingsOf_nodeKey_of_synced hsynced]

/-- A node with a bucket, an empty one, under a service that is not there. -/
def ghostKey : Document where
  nodes := [{ id := "n", tasks := some (OrderedMap.insert ∅ "ghost" []) }]

theorem settled_ghostKey (settings : RepairSettings) : ghostKey.Settled settings where
  refsListed := by
    intro ref hmem
    cases hmem
  recorded _ := Document.unrecorded_eq_nil_iff.2 (List.forall_mem_nil _)
  separated := by
    apply ghostKey.renames_eq_nil_iff.2
    unfold Document.NamesService
    decide

/-- The key is reported, and the synchronisation removes it. -/
theorem removed_key_reported :
    let outcome := Plan.repair.run .standard ⟨0, 0⟩ (Store.of "doc.json" ghostKey)
    let finding := Finding.danglingKey "n" .danglingGroupingServiceKey "ghost"
    finding ∈ outcome.2.findings.warnings ∧ finding ∉ outcome.1.referenceFindings := by
  intro outcome finding
  have hrepaired : ghostKey.repaired Settings.standard.repair = ghostKey :=
    (settled_ghostKey _).repaired_eq
  have hfinal : outcome.1 = Store.of "doc.json" ghostKey.deduped.sync := by
    rw [← hrepaired]
    exact Plan.fst_run_of .standard ⟨0, 0⟩ Plan.repair "doc.json" ghostKey
  constructor
  · have habsent : (Store.of "doc.json" ghostKey).contains .service "ghost" = false :=
      Bool.eq_false_iff.2 fun hrecorded =>
        List.not_mem_nil (Store.contains_service_of.1 hrecorded).1
    have hmem : finding ∈
        (Store.of "doc.json" ghostKey).findingsOf .danglingGroupingServiceKey := by
      refine List.mem_flatMap.2 ⟨_, List.mem_singleton_self _, List.mem_map_of_mem ?_⟩
      exact List.mem_filter.2 ⟨List.mem_singleton_self _, by rw [habsent]; decide⟩
    rw [← Store.withCode_referenceFindings] at hmem
    rw [Plan.warnings_run_repair, hrepaired]
    exact (Findings.mem_withCode.1 hmem).1
  · intro hmem
    have hunlisted : ghostKey.deduped.unlistedTasks = [] :=
      Document.unlistedTasks_eq_nil_iff.2
        (Document.refsListed_deduped (settled_ghostKey Settings.standard.repair).refsListed)
    have htasks : outcome.1.doc.tasks = [] := by
      rw [hfinal]
      exact hunlisted
    have hsynced : outcome.1.doc.Synced := hfinal ▸ ghostKey.deduped.synced_sync
    have hcode : finding ∈ outcome.1.referenceFindings.withCode .danglingGroupingServiceKey :=
      Findings.mem_withCode.2 ⟨hmem, rfl⟩
    rw [Store.withCode_referenceFindings, Store.findingsOf_serviceKey_of_synced hsynced] at hcode
    rw [Store.projectedServiceKeyFindings_of_no_tasks htasks] at hcode
    exact List.not_mem_nil hcode

end MockCluster
