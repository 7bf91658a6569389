import MockCluster.Proofs.Pipeline.Effect

/-!
Nodes and services after a run: no plan merges nodes or changes the ID of a service entry, and a
plan that ends with a repair leaves no node with the ID of a service.
-/

namespace MockCluster

namespace Document

/-- No node has the ID of a listed service. -/
def Apart (doc : Document) : Prop := ∀ id ∈ doc.nodeIds, id ≠ "" → id ∉ doc.listedServiceIds

theorem Apart.of_sameListings {before after : Document} (h : before.Apart)
    (hsame : SameListings before after) : after.Apart := by
  intro id hnode hne
  rw [hsame.listedServiceIds_eq]
  exact h id (hsame.nodeIds_eq ▸ hnode) hne

theorem sameListings_deduped (doc : Document) : SameListings doc doc.deduped := ⟨rfl, rfl⟩

theorem apart_of_renames_eq_nil {doc : Document} (h : doc.renames = []) : doc.Apart :=
  fun id hnode hne hlisted => doc.renames_eq_nil_iff.1 h id hnode hne (.inl hlisted)

/-- What becomes of the IDs of a document in which nodes and services are told apart. -/
structure SeparatedFrom (before after : Document) : Prop where
  apart : after.Apart
  nodes : NodesKept before after
  services : ServiceIdsKept before after

theorem nodesKept_repaired (settings : RepairSettings) (doc : Document) :
    NodesKept doc (doc.repaired settings) := by
  have hrecorded : (doc.backfill.recorded settings).nodeListings = doc.nodeListings :=
    nodeListings_recorded settings doc.backfill
  exact (NodesKept.of_eq hrecorded).trans (nodesKept_renamed settings _)

theorem serviceIdsKept_repaired (settings : RepairSettings) (doc : Document) :
    ServiceIdsKept doc (doc.repaired settings) := by
  have hrecorded : ServiceIdsKept doc (doc.backfill.recorded settings) :=
    serviceIdsKept_recorded settings doc.backfill
  exact hrecorded.trans (.of_eq (serviceListings_renamed settings _))

end Document

open Document

variable (settings : Settings) (now : Instant)

theorem Stage.nodesKept_effect (stage : Stage) (doc : Document) :
    NodesKept doc (stage.effect settings now doc) := by
  cases stage with
  | ensureServices => exact .of_eq (nodeListings_ensured now _ doc)
  | synthesizeTasks => exact .of_eq sameListings_synthesized.nodes
  | synthesizeExtraTasks => exact .of_eq sameListings_extraSynthesized.nodes
  | repairReferences => exact nodesKept_repaired settings.repair doc
  | dedupeTasks => exact .of_eq rfl
  | syncViews => exact .of_eq (sameListings_sync doc).nodes

theorem Stage.serviceIdsKept_effect (stage : Stage) (doc : Document) :
    ServiceIdsKept doc (stage.effect settings now doc) := by
  cases stage with
  | ensureServices => exact serviceIdsKept_ensured now _ doc
  | synthesizeTasks => exact .of_eq sameListings_synthesized.services
  | synthesizeExtraTasks => exact .of_eq sameListings_extraSynthesized.services
  | repairReferences => exact serviceIdsKept_repaired settings.repair doc
  | dedupeTasks => exact .of_eq rfl
  | syncViews => exact .of_eq (sameListings_sync doc).services

namespace Plan

theorem nodesKept_effect (plan : Plan) (doc : Document) :
    NodesKept doc (plan.effect settings now doc) :=
  plan.rel_effect settings now (r := NodesKept) (fun _ => .of_eq rfl) NodesKept.trans
    (Stage.nodesKept_effect settings now) doc

theorem serviceIdsKept_effect (plan : Plan) (doc : Document) :
    ServiceIdsKept doc (plan.effect settings now doc) :=
  plan.rel_effect settings now (r := ServiceIdsKept) (fun _ => .of_eq rfl) ServiceIdsKept.trans
    (Stage.serviceIdsKept_effect settings now) doc

theorem apart_effect_repair (doc : Document) : (repair.effect settings now doc).Apart := by
  have hsettled := settled_repaired settings.repair doc
  exact ((apart_of_renames_eq_nil hsettled.separated).of_sameListings
    (sameListings_deduped _)).of_sameListings (sameListings_sync _)

theorem separatedFrom_effect_repair (before : Plan) (doc : Document) :
    SeparatedFrom doc (Plan.effect settings now (before ++ repair) doc) where
  apart := by
    rw [effect_append]
    exact apart_effect_repair settings now _
  nodes := nodesKept_effect settings now _ doc
  services := serviceIdsKept_effect settings now _ doc

end Plan

/-- After a repair, in a plan of its own or behind a synthesis, no node has the ID of a listed
service, no nodes have been merged and no service has got another ID.  A second repair right after
the first finds nothing and changes nothing. -/
theorem nodes_and_services_separated (settings : Settings) (now : Instant) (source : String)
    (doc : Document) :
    let store := Store.of source doc
    let repaired := (store.repair settings.repair).1
    let again := repaired.repair settings.repair
    SeparatedFrom doc (Plan.repair.run settings now store).1.doc ∧
      SeparatedFrom doc (Plan.full.run settings now store).1.doc ∧
      again.1 = repaired ∧ again.2.collisions = [] ∧ again.2.stubs = [] ∧
      again.2.backfilled = 0 := by
  have hsettled := settled_repaired settings.repair doc
  have hbackfill := backfill_of_refsListed hsettled.refsListed
  refine ⟨?_, ?_, ?_, ?_, ?_, ?_⟩
  · rw [Plan.fst_run_of]
    exact Plan.separatedFrom_effect_repair settings now [] doc
  · rw [Plan.fst_run_of]
    exact Plan.separatedFrom_effect_repair settings now
      [.ensureServices, .synthesizeTasks, .synthesizeExtraTasks] doc
  · rw [Store.fst_repair_of, Store.fst_repair_of, hsettled.repaired_eq]
  · rw [Store.fst_repair_of, Store.collisions_repair_of, hbackfill,
      recorded_of_unrecorded_eq_nil _ hsettled.recorded, hsettled.separated]
  · rw [Store.fst_repair_of, Store.stubs_repair_of, hbackfill]
    split
    next hstubs => exact hsettled.recorded hstubs
    next => rfl
  · rw [Store.fst_repair_of, Store.backfilled_repair_of,
      unlistedTasks_eq_nil_iff.2 hsettled.refsListed]
    rfl

end MockCluster
