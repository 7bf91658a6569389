import MockCluster.Proofs.Pipeline.Growth

/-!
Running a repair plan on its own output.

The second run backfills, stubs and renames no task, and it changes nothing unless a task on a node
names a node as its service: then the views of the first run have made a service key of that ID, and
the second run moves the node away from it.
-/

namespace MockCluster

open Document

namespace Document

/-- A task on a node that groups its tasks names the ID of a node as its service. -/
def Clashes (doc : Document) : Prop :=
  ∃ task ∈ doc.tasks, ∃ service, task.serviceId = some service ∧ service ≠ "" ∧
    service ≠ Grouping.unassignedKey ∧ service ∈ doc.nodeIds ∧
      ∃ node ∈ doc.allNodes, task.nodeId = some node.id ∧ node.tasks.isSome

theorem exists_ofNode_mem_nodeHolders {doc : Document} {node : Node} (h : node ∈ doc.allNodes) :
    ∃ gains, Holder.ofNode gains node ∈ doc.nodeHolders := by
  simp only [allNodes, List.mem_append] at h
  simp only [nodeHolders, List.mem_append]
  rcases h with (h | h) | h
  · exact ⟨_, .inl (.inl (List.mem_map_of_mem h))⟩
  · exact ⟨_, .inl (.inr (List.mem_map_of_mem h))⟩
  · exact ⟨_, .inr (List.mem_map_of_mem h)⟩

theorem Synced.mem_keys_iff {doc : Document} (h : doc.Synced) {node : Node}
    (hnode : node ∈ doc.allNodes) {key : String} :
    key ∈ (node.tasks.getD ∅).keys ↔
      node.tasks.isSome ∧
        ∃ task ∈ doc.tasks, task.nodeId = some node.id ∧ task.serviceId = some key := by
  obtain ⟨gains, hholder⟩ := exists_ofNode_mem_nodeHolders hnode
  have hkeys := Holder.keys_of_refiled (h.nodes _ hholder)
  simp only [Holder.ofNode] at hkeys
  rw [hkeys]
  cases node.tasks with
  | none => simp
  | some grouping => simp [Groupings.mem_keys_of_project, nodePlace_eq_some_iff]

theorem Synced.mem_nodeKeys {doc : Document} (h : doc.Synced) {key : String} :
    key ∈ doc.nodeKeys ↔ ∃ task ∈ doc.tasks, task.serviceId = some key ∧
      ∃ node ∈ doc.allNodes, task.nodeId = some node.id ∧ node.tasks.isSome := by
  rw [nodeKeys, List.mem_flatMap]
  constructor
  · intro hgiven
    obtain ⟨node, hnode, hkey⟩ := hgiven
    obtain ⟨hsome, task, htask, hplace, hservice⟩ := (h.mem_keys_iff hnode).1 hkey
    exact ⟨task, htask, hservice, node, hnode, hplace, hsome⟩
  · intro hgiven
    obtain ⟨task, htask, hservice, node, hnode, hplace, hsome⟩ := hgiven
    exact ⟨node, hnode, (h.mem_keys_iff hnode).2 ⟨hsome, task, htask, hplace, hservice⟩⟩

theorem ofNode_mem_nodeHolders_of_roster {doc : Document} {node : Node} (h : node ∈ doc.roster) :
    Holder.ofNode true node ∈ doc.nodeHolders ∧ node ∈ doc.allNodes := by
  unfold roster at h
  simp only [nodeHolders, allNodes, List.mem_append, List.mem_map]
  split at h
  next hroster => exact ⟨.inl (.inr ⟨node, h, by rw [hroster]⟩), .inl (.inr h)⟩
  next hroster =>
    refine ⟨.inl (.inl ⟨node, h, ?_⟩), .inl (.inl h)⟩
    rw [Bool.eq_false_iff.2 hroster]
    rfl

theorem Synced.mem_nodeKeys_of_roster {doc : Document} (h : doc.Synced) {node : Node}
    (hnode : node ∈ doc.roster) {task : Task} (htask : task ∈ doc.tasks) {key : String}
    (hplace : task.nodeId = some node.id) (hservice : task.serviceId = some key) :
    key ∈ doc.nodeKeys := by
  obtain ⟨hholder, hlisted⟩ := ofNode_mem_nodeHolders_of_roster hnode
  refine h.mem_nodeKeys.2 ⟨task, htask, hservice, node, hlisted, hplace, ?_⟩
  have hkey : key ∈ ((projectNodes doc.tasks).of node.id).keys :=
    Groupings.mem_keys_of_project.2 ⟨task, htask, nodePlace_eq_some_iff.2 ⟨hplace, hservice⟩⟩
  have hprojected : (projectNodes doc.tasks).of node.id ≠ ∅ := by
    intro hempty
    rw [hempty] at hkey
    cases hkey
  have hheld : Grouping.refile true ((projectNodes doc.tasks).of node.id) node.tasks =
      node.tasks := congrArg Holder.held (h.nodes _ hholder)
  rw [Grouping.refile_eq (projected_projectNodes _ _)] at hheld
  cases hcase : node.tasks with
  | none => simp [hcase, hprojected] at hheld
  | some grouping => rfl

/-- What a repair, a renaming of duplicates and a synchronisation leave behind. -/
structure Converged (settings : RepairSettings) (doc : Document) : Prop where
  synced : doc.Synced
  recorded : settings.backfillServiceStubs = true → doc.unrecorded = []
  apart : doc.Apart
  distinct : doc.DistinctTasks

theorem unrecorded_eq_nil_of_sameListings {before after : Document}
    (hsame : SameListings before after) (h : before.unrecorded = []) : after.unrecorded = [] := by
  rw [unrecorded_eq_nil_iff] at h ⊢
  rw [hsame.listedServiceIds_eq, hsame.serviceIds_eq]
  exact h

theorem refsListed_deduped {doc : Document} (h : doc.RefsListed) : doc.deduped.RefsListed :=
  fun ref hmem hne => taskIds_subset_deduped doc (h ref hmem hne)

theorem converged_of_repaired (settings : RepairSettings) (doc : Document) :
    ((doc.repaired settings).deduped.sync).Converged settings := by
  have hsettled := settled_repaired settings doc
  have hsame : SameListings (doc.repaired settings) (doc.repaired settings).deduped.sync :=
    (sameListings_deduped _).trans (sameListings_sync _)
  have hlisted := refsListed_deduped hsettled.refsListed
  refine ⟨synced_sync _, fun hstubs => ?_, ?_, ?_⟩
  · exact unrecorded_eq_nil_of_sameListings hsame (hsettled.recorded hstubs)
  · exact (apart_of_renames_eq_nil hsettled.separated).of_sameListings hsame
  · rw [DistinctTasks, tasks_sync_of_refsListed hlisted]
    exact distinctTasks_deduped _

section Converged

variable {settings : RepairSettings} {doc : Document} (h : doc.Converged settings)

include h

theorem Converged.recorded_backfill : doc.backfill.recorded settings = doc := by
  rw [backfill_of_refsListed h.synced.refsListed, recorded_of_unrecorded_eq_nil _ h.recorded]

theorem Converged.repaired_eq : doc.repaired settings = doc.renamed settings := by
  rw [repaired, h.recorded_backfill]

theorem Converged.resolved_repaired :
    (doc.repaired settings).resolved = ((doc.repaired settings).tasks, []) :=
  resolved_of_distinctTasks (h.repaired_eq ▸ distinctTasks_renamed settings h.distinct)

theorem Converged.deduped_repaired : (doc.repaired settings).deduped = doc.renamed settings := by
  rw [deduped, h.resolved_repaired, h.repaired_eq]

theorem Converged.unlistedTasks_renamed : (doc.renamed settings).unlistedTasks = [] :=
  unlistedTasks_eq_nil_iff.2 (refsListed_renamed settings h.synced.refsListed)

/-- A node still has the ID of a service only where a task has made a service of it. -/
theorem Converged.renames_eq_nil_iff : doc.renames = [] ↔ ¬ doc.Clashes := by
  rw [Document.renames_eq_nil_iff]
  constructor
  · intro hnone hgiven
    obtain ⟨task, htask, service, hservice, hne, hassigned, hnode, hholder⟩ := hgiven
    refine hnone service hnode hne (.inr ⟨?_, hassigned⟩)
    exact h.synced.mem_nodeKeys.2 ⟨task, htask, hservice, hholder⟩
  · intro hnone id hnode hne hgiven
    rcases hgiven with hlisted | ⟨hkey, hassigned⟩
    · exact h.apart id hnode hne hlisted
    · obtain ⟨task, htask, hservice, hholder⟩ := h.synced.mem_nodeKeys.1 hkey
      exact hnone ⟨task, htask, id, hservice, hne, hassigned, hnode, hholder⟩

theorem Converged.sync_renamed_eq_iff :
    (doc.renamed settings).sync = doc ↔ doc.renames = [] := by
  constructor
  · intro heq
    by_contra hsome
    obtain ⟨rename, hrename⟩ := List.exists_mem_of_ne_nil _ hsome
    -- A node that keeps its ID would keep the ID of a service.
    obtain ⟨hnode, hne, hnames⟩ := doc.mem_olds_renames.1 (List.mem_map_of_mem hrename)
    have hids : doc.nodeIds.map (Renames.target doc.renames) = doc.nodeIds := by
      rw [← nodeIds_renamed settings, ← (sameListings_sync _).nodeIds_eq, heq]
    have hkept : Renames.target doc.renames rename.old = rename.old := by
      have hmap := List.map_eq_map_iff.1 (hids.trans (List.map_id _).symm)
      exact hmap rename.old hnode
    exact not_namesService_target hnode hne (hkept.symm ▸ hnames)
  · intro hnone
    rw [renamed, hnone]
    exact h.synced.sync_eq

end Converged

end Document

namespace Plan

variable (settings : Settings) (now : Instant) (source : String) (doc : Document)

theorem snd_runFrom_repair (summary : RunSummary) :
    let final := (repair.runFrom settings now (Store.of source doc, summary)).2
    final.repair =
        some { ((Store.of source doc).repair settings.repair).2 with findings := [] } ∧
      final.duplicatesRenamed =
        summary.duplicatesRenamed ++ (doc.repaired settings.repair).resolved.2 ∧
      final.views = some (viewChanges (doc.repaired settings.repair).deduped
        (doc.repaired settings.repair).deduped.sync) := by
  have hrepair : (Store.of source doc).repair settings.repair =
      (Store.of source (doc.repaired settings.repair),
        ((Store.of source doc).repair settings.repair).2) :=
    Prod.ext (Store.fst_repair_of source doc settings.repair) rfl
  have hdedupe := dedupe_of source (doc.repaired settings.repair)
  refine ⟨rfl, ?_, ?_⟩
  · simp only [runFrom, repair, List.foldl_cons, List.foldl_nil, Stage.run]
    rw [hrepair, hdedupe]
  · simp only [runFrom, repair, List.foldl_cons, List.foldl_nil, Stage.run]
    rw [hrepair, hdedupe]
    rfl

end Plan

/-- What a plan does on its own output, told from the output alone. -/
structure RerunOutcome (once : Store) (again : Store × RunSummary) : Prop where
  unchanged_iff : again.1.doc = once.doc ↔ ¬ once.doc.Clashes
  collisions_iff : again.2.repair.map RepairReport.collisions = some [] ↔ ¬ once.doc.Clashes
  stubs : again.2.repair.map RepairReport.stubs = some []
  backfilled : again.2.repair.map RepairReport.backfilled = some 0
  viewsBackfilled : again.2.views.map ViewStats.backfilled = some 0
  duplicatesRenamed : again.2.duplicatesRenamed = []

theorem effect_repair (settings : Settings) (now : Instant) (doc : Document) :
    Plan.repair.effect settings now doc = (doc.repaired settings.repair).deduped.sync := rfl

/-- The last three stages on a document that a former run of them has left behind, give or take
stages before that find nothing to do. -/
theorem rerunOutcome_runFrom_repair {settings : Settings} {doc : Document}
    (h : doc.Converged settings.repair) (now : Instant) (source : String) (summary : RunSummary)
    (hfirst : summary.duplicatesRenamed = []) :
    RerunOutcome (Store.of source doc)
      (Plan.repair.runFrom settings now (Store.of source doc, summary)) := by
  obtain ⟨hrepair, hduplicates, hviews⟩ :=
    Plan.snd_runFrom_repair settings now source doc summary
  have hdoc : (Plan.repair.runFrom settings now (Store.of source doc, summary)).1.doc =
      (doc.renamed settings.repair).sync := by
    rw [Plan.fst_runFrom_of, effect_repair, h.deduped_repaired]
    rfl
  refine ⟨?_, ?_, ?_, ?_, ?_, ?_⟩
  · rw [hdoc]
    exact h.sync_renamed_eq_iff.trans h.renames_eq_nil_iff
  · rw [hrepair, Option.map_some, Option.some.injEq]
    change ((Store.of source doc).repair settings.repair).2.collisions = [] ↔ _
    rw [Store.collisions_repair_of, h.recorded_backfill]
    exact h.renames_eq_nil_iff
  · rw [hrepair, Option.map_some, Option.some.injEq]
    change ((Store.of source doc).repair settings.repair).2.stubs = []
    rw [Store.stubs_repair_of, backfill_of_refsListed h.synced.refsListed]
    split
    next hstubs => exact h.recorded hstubs
    next => rfl
  · rw [hrepair, Option.map_some, Option.some.injEq]
    change ((Store.of source doc).repair settings.repair).2.backfilled = 0
    rw [Store.backfilled_repair_of, unlistedTasks_eq_nil_iff.2 h.synced.refsListed]
    rfl
  · rw [hviews, Option.map_some, Option.some.injEq, h.deduped_repaired]
    change ((doc.renamed settings.repair).tasks ++ _).length - _ = 0
    rw [h.unlistedTasks_renamed, List.append_nil, Nat.sub_self]
  · rw [hduplicates, hfirst, h.resolved_repaired]
    rfl

/-- A repair plan on its own output finds nothing to backfill, to stub or to tell apart, and it
leaves the document as it is if and only if no task on a node names a node as its service; otherwise
it moves nodes once more. -/
theorem rerun_unchanged_iff (settings : Settings) (now later : Instant) (source : String)
    (doc : Document) :
    let repairedOnce := (Plan.repair.run settings now (Store.of source doc)).1
    let fullOnce := (Plan.full.run settings now (Store.of source doc)).1
    RerunOutcome repairedOnce (Plan.repair.run settings later repairedOnce) ∧
      RerunOutcome fullOnce (Plan.full.run settings later fullOnce) := by
  intro repairedOnce fullOnce
  have hrepaired : repairedOnce = Store.of source (Plan.repair.effect settings now doc) :=
    Plan.fst_run_of settings now Plan.repair source doc
  have hfull : fullOnce = Store.of source (Plan.full.effect settings now doc) :=
    Plan.fst_run_of settings now Plan.full source doc
  constructor
  · rw [hrepaired]
    exact rerunOutcome_runFrom_repair (converged_of_repaired settings.repair doc) later source
      _ rfl
  · have hconverged : (Plan.full.effect settings now doc).Converged settings.repair :=
      converged_of_repaired settings.repair (Plan.fill.effect settings now doc)
    have hfilled := Plan.effect_fill_effect settings now later Plan.repair doc
    change Plan.fill.effect settings later (Plan.full.effect settings now doc) =
      Plan.full.effect settings now doc at hfilled
    rw [hfull]
    have hstore := Plan.fst_runFrom_of settings later Plan.fill source
      (Plan.full.effect settings now doc) { stages := Plan.full }
    rw [hfilled] at hstore
    have hsplit :
        Plan.full.run settings later (Store.of source (Plan.full.effect settings now doc)) =
        Plan.repair.runFrom settings later (Plan.fill.runFrom settings later
          (Store.of source (Plan.full.effect settings now doc), { stages := Plan.full })) :=
      Plan.runFrom_append settings later Plan.fill Plan.repair _
    rw [hsplit, ← Prod.eta (Plan.fill.runFrom _ _ _), hstore]
    exact rerunOutcome_runFrom_repair hconverged later source _ rfl

def nodeAsService : Document where
  nodes := [{ id := "n1" }, { id := "x" }]
  tasks := [{ id := "t", serviceId := some "x", nodeId := some "n1" }]

theorem effect_repair_nodeAsService (settings : Settings) (now : Instant) :
    Plan.repair.effect settings now nodeAsService =
      nodeAsService.refileViews.regenerateTimeline := by
  have hsettled : nodeAsService.Settled settings.repair := settled_of_nil _ rfl rfl rfl
  have hdistinct : nodeAsService.DistinctTasks := by
    change ["t"].Nodup
    decide
  rw [effect_repair, hsettled.repaired_eq, deduped_of_distinctTasks hdistinct, sync,
    backfill_of_refsListed hsettled.refsListed]

/-- The first run makes a service key of the node's ID, and the second run moves the node. -/
theorem rerun_moves_node :
    let once := (Plan.repair.run Settings.standard ⟨0, 0⟩
      (Store.of "doc.json" nodeAsService)).1
    let again := Plan.repair.run Settings.standard ⟨0, 0⟩ once
    Settings.standard.check = .ok () ∧ again.1.doc ≠ once.doc ∧
      again.2.repair.map RepairReport.collisions ≠ some [] := by
  intro once again
  have honce : once =
      Store.of "doc.json" (Plan.repair.effect Settings.standard ⟨0, 0⟩ nodeAsService) :=
    Plan.fst_run_of _ _ Plan.repair _ _
  have houtcome : RerunOutcome once again := by
    change RerunOutcome once (Plan.repair.run Settings.standard ⟨0, 0⟩ once)
    rw [honce]
    exact rerunOutcome_runFrom_repair (converged_of_repaired Settings.standard.repair _) ⟨0, 0⟩
      "doc.json" _ rfl
  have hclashes : once.doc.Clashes := by
    rw [honce, effect_repair_nodeAsService]
    refine ⟨_, List.mem_singleton_self _, "x", rfl, by decide, by decide, ?_, ?_⟩
    · decide
    · decide
  refine ⟨by decide, ?_, ?_⟩
  · exact fun heq => houtcome.unchanged_iff.1 heq hclashes
  · exact fun hnone => houtcome.collisions_iff.1 hnone hclashes

end MockCluster
