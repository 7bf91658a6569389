import MockCluster.Proofs.Document.Positions
import MockCluster.Proofs.Json.Strings
import MockCluster.Proofs.Lists
import MockCluster.Proofs.Repair.NodeRefs

/-!
What a repair reports of its replacements: which node IDs have moved, and how many positions of each
kind held them just before.

The replacements are counted while the walk makes them.  None of them is met again under its new ID,
so the count is that of the positions in the document before the walk.
-/

namespace MockCluster

namespace Json

variable {σ : Type} {μ : σ → Nat} {visit : String → StateM σ String} {amount : String → Nat}

mutual

theorem raises_visitItems (h : ∀ id, Raises μ (visit id) (amount id)) (way : Way) :
    ∀ items, Raises μ (visitItems visit way.AmongNodes items)
      (sumBy amount (standing Way.NamesNode (itemStrings way items)))
  | [] => .of_pure _
  | .object members :: rest => by
      rw [itemStrings, standing_append, sumBy_append]
      exact (raises_visitMembers h (.item :: way) members).bind fun _ =>
        (raises_visitItems h way rest).map
  | .array items :: rest => by
      rw [itemStrings, standing_append, sumBy_append]
      exact (raises_visitItems h (.item :: way) items).map.bind fun _ =>
        (raises_visitItems h way rest).map
  | .string value :: rest => by
      rw [itemStrings, standing_append, standing_string]
      exact (raises_visitItems h way rest).map
  | .null :: rest | .bool _ :: rest | .number _ :: rest => (raises_visitItems h way rest).map

theorem raises_visitMembers (h : ∀ id, Raises μ (visit id) (amount id)) (way : Way) :
    ∀ members, Raises μ (visitMembers visit way.ToNode members)
      (sumBy amount (standing Way.NamesNode (memberStrings way members)))
  | [] => .of_pure _
  | (key, .string value) :: rest => by
      have hrest := raises_visitMembers h way rest
      rw [visitMembers, memberStrings, standing_append, standing_string, sumBy_append]
      by_cases hnames : Way.NamesNode (.member key :: way) = true
      · rw [if_pos (by simpa [Way.NamesNode] using hnames), if_pos hnames]
        exact (h value).bind fun _ => hrest.map
      · rw [if_neg (by simpa [Way.NamesNode] using hnames), if_neg hnames]
        exact (Raises.of_pure value).bind fun _ => hrest.map
  | (key, .object members) :: rest => by
      rw [memberStrings, standing_append, sumBy_append]
      exact (raises_visitMembers h (.member key :: way) members).map.bind fun _ =>
        (raises_visitMembers h way rest).map
  | (key, .array items) :: rest => by
      rw [memberStrings, standing_append, sumBy_append]
      exact (raises_visitItems h (.member key :: way) items).map.bind fun _ =>
        (raises_visitMembers h way rest).map
  | (_, .null) :: rest | (_, .bool _) :: rest | (_, .number _) :: rest =>
      (raises_visitMembers h way rest).map

end

end Json

namespace Document

/-- The node IDs that stand at the positions of one kind of update.  Untyped data has such positions
only if it is searched. -/
def idsOfKind (doc : Document) (untyped : Bool) : UpdateKind → List String
  | .nodeId => doc.nodeIdsAt (.nodeRecord .primary)
  | .horizontalNode => doc.nodeIdsAt (.nodeRecord .horizontal)
  | .verticalNode => doc.nodeIdsAt (.nodeRecord .vertical)
  | .taskNodeId => doc.nodeIdsAt .taskNodeId
  | .groupingNodeId => doc.nodeIdsAt .groupingEntry ++ doc.nodeIdsAt .unassignedEntry
  | .groupingKey => doc.nodeIdsAt .serviceGroupingKey
  | .untypedNodeId => if untyped then doc.untypedMaps.flatMap Json.namedNodes else []

end Document

/-- Counts the positions of a kind that hold an ID. -/
def Tally.ofHits (old : String) (kind : UpdateKind) (untyped : Bool) : Tally where
  nodeId site id := if UpdateKind.ofSite site = kind ∧ id = old then 1 else 0
  untyped members :=
    if untyped ∧ UpdateKind.untypedNodeId = kind then (Json.namedNodes members).count old else 0

theorem Tally.document_ofHits (old : String) (kind : UpdateKind) (untyped : Bool)
    (doc : Document) :
    (Tally.ofHits old kind untyped).document doc = (doc.idsOfKind untyped kind).count old := by
  have hmaps : sumBy (fun members => (Json.namedNodes members).count old) doc.untypedMaps =
      (doc.untypedMaps.flatMap Json.namedNodes).count old := by
    rw [← sumBy_eq_count, sumBy_flatMap]
    simp only [sumBy_eq_count]
  cases kind <;> cases untyped <;>
    simp [Tally.document, Tally.ofHits, NodeIdSite.all, UpdateKind.ofSite, Document.idsOfKind,
      sumBy_eq_count, sumBy_zero, hmaps]

namespace Renames

variable {renames : List Rename}

theorem raises_replace {old : String} (hold : old ∈ renames.map Rename.old)
    (kind own : UpdateKind) (id : String) :
    Raises (List.count (old, kind)) (replace renames own id)
      (if own = kind ∧ id = old then 1 else 0) := by
  intro hits
  unfold replace
  cases hfind : find? renames id with
  | none =>
      have hother : id ≠ old := by
        rintro rfl
        obtain ⟨rename, hmem, heq⟩ := List.mem_map.1 hold
        have hnone := List.find?_eq_none.1 (Option.map_eq_none_iff.1 hfind) rename hmem
        exact hnone (decide_eq_true heq)
      rw [if_neg fun h => hother h.2]
      rfl
  | some new =>
      change List.count (old, kind) ((id, own) :: hits) = _
      rw [List.count_cons]
      by_cases heq : own = kind ∧ id = old
      · simp [heq]
      · rw [if_neg heq, if_neg]
        simpa [Prod.ext_iff, and_comm] using heq

theorem counts_visitor {old : String} (hold : old ∈ renames.map Rename.old) (kind : UpdateKind)
    (untyped : Bool) :
    (visitor renames untyped).Counts (List.count (old, kind)) (.ofHits old kind untyped) where
  nodeId site := raises_replace hold kind (UpdateKind.ofSite site)
  task := .of_pure
  untyped members := by
    cases untyped with
    | false => exact .of_pure members
    | true =>
        have hvisit := Json.raises_visitMembers (raises_replace hold kind .untypedNodeId) [] members
        apply hvisit.congr
        by_cases hkind : UpdateKind.untypedNodeId = kind
        · simp [Tally.ofHits, hkind, sumBy_eq_count, Json.namedNodes]
        · simp [Tally.ofHits, hkind, sumBy_zero]

/-- A walk hits an ID once for each position that held it before. -/
theorem count_apply {old : String} (hold : old ∈ renames.map Rename.old) (kind : UpdateKind)
    (untyped : Bool) (doc : Document) :
    (apply renames untyped doc).2.count (old, kind) = (doc.idsOfKind untyped kind).count old := by
  have hwalk := (counts_visitor hold kind untyped).walk (follows_visitor renames untyped) doc []
  rw [List.count_nil, Nat.zero_add, Tally.document_ofHits] at hwalk
  exact hwalk

/-- All hits of an ID, kind by kind. -/
theorem total_eq (hits : List Hit) (id : String) :
    total hits id = sumBy (fun kind => hits.count (id, kind)) UpdateKind.all := by
  induction hits with
  | nil => rfl
  | cons hit rest ih =>
      obtain ⟨other, own⟩ := hit
      rw [total] at ih ⊢
      rw [List.countP_cons, ih]
      by_cases heq : other = id
      · subst heq
        cases own <;> simp [UpdateKind.all, List.count_cons] <;> omega
      · simp [UpdateKind.all, heq]

end Renames

namespace UpdateKind

theorem mem_all (kind : UpdateKind) : kind ∈ all := by
  cases kind <;> decide

theorem nodup_all : all.Nodup := by decide

end UpdateKind

/-- The order of a report: by replacement, and by kind where that is the same. -/
def Update.Before (renames : List Rename) (first second : Update) : Prop :=
  renames.idxOf first.rename < renames.idxOf second.rename ∨
    first.rename = second.rename ∧
      UpdateKind.all.idxOf first.kind < UpdateKind.all.idxOf second.kind

namespace Renames

variable {renames : List Rename}

/-- What one replacement contributes to a report. -/
def updatesOf (hits : List Hit) (rename : Rename) : List Update :=
  (UpdateKind.all.map fun kind => ⟨kind, rename, hits.count (rename.old, kind)⟩).filter
    fun update => update.count ≠ 0

theorem updates_eq (renames : List Rename) (hits : List Hit) :
    updates renames hits = renames.flatMap (updatesOf hits) := rfl

theorem mem_updatesOf {hits : List Hit} {rename : Rename} {update : Update} :
    update ∈ updatesOf hits rename ↔
      update.rename = rename ∧ update.count = hits.count (rename.old, update.kind) ∧
        update.count ≠ 0 := by
  simp only [updatesOf, List.mem_filter, List.mem_map, decide_eq_true_iff]
  constructor
  · rintro ⟨⟨kind, _, rfl⟩, hcount⟩
    exact ⟨rfl, rfl, hcount⟩
  · rintro ⟨hrename, hheld, hcount⟩
    refine ⟨⟨update.kind, UpdateKind.mem_all _, ?_⟩, hcount⟩
    rw [← hheld, ← hrename]

theorem mem_updates {hits : List Hit} {update : Update} :
    update ∈ updates renames hits ↔
      update.rename ∈ renames ∧ update.count = hits.count (update.rename.old, update.kind) ∧
        update.count ≠ 0 := by
  rw [updates_eq, List.mem_flatMap]
  simp only [mem_updatesOf]
  constructor
  · rintro ⟨rename, hmem, rfl, hcounts⟩
    exact ⟨hmem, hcounts⟩
  · rintro ⟨hmem, hcounts⟩
    exact ⟨update.rename, hmem, rfl, hcounts⟩

theorem pairwise_updates (h : renames.Nodup) (hits : List Hit) :
    (updates renames hits).Pairwise (Update.Before renames) := by
  rw [updates_eq, List.pairwise_flatMap]
  constructor
  · intro rename _
    apply List.Pairwise.filter
    apply List.pairwise_map.2
    exact (pairwise_idxOf UpdateKind.nodup_all).imp fun hlt => .inr ⟨rfl, hlt⟩
  · apply (pairwise_idxOf h).imp
    intro rename other hlt first hfirst second hsecond
    rw [← (mem_updatesOf.1 hfirst).1, ← (mem_updatesOf.1 hsecond).1] at hlt
    exact .inl hlt

theorem filter_updates (h : renames.Nodup) (hits : List Hit) {rename : Rename}
    (hmem : rename ∈ renames) :
    (updates renames hits).filter (fun update => update.rename = rename) =
      updatesOf hits rename := by
  have hblock (other : Rename) (hne : other ≠ rename) :
      (updatesOf hits other).filter (fun update => update.rename = rename) = [] := by
    apply List.filter_eq_nil_iff.2
    intro update hupdate heq
    exact hne ((mem_updatesOf.1 hupdate).1.symm.trans (of_decide_eq_true heq))
  have hown : (updatesOf hits rename).filter (fun update => update.rename = rename) =
      updatesOf hits rename :=
    List.filter_eq_self.2 fun update hupdate => decide_eq_true (mem_updatesOf.1 hupdate).1
  induction renames with
  | nil => cases hmem
  | cons first rest ih =>
      obtain ⟨hfirst, hrest⟩ := List.nodup_cons.1 h
      rw [updates_eq, List.flatMap_cons, List.filter_append, ← updates_eq]
      rcases List.mem_cons.1 hmem with rfl | hlater
      · have hothers : (updates rest hits).filter (fun update => update.rename = rename) = [] := by
          rw [updates_eq, List.filter_flatMap, List.flatMap_eq_nil_iff]
          intro other hother
          exact hblock other fun heq => hfirst (heq ▸ hother)
        rw [hown, hothers, List.append_nil]
      · rw [hblock first fun heq => hfirst (heq ▸ hlater), List.nil_append, ih hrest hlater]

/-- The hits of an ID are those of its updates. -/
theorem sumBy_updatesOf (hits : List Hit) (rename : Rename) :
    sumBy Update.count (updatesOf hits rename) = total hits rename.old := by
  rw [updatesOf, sumBy_filter_ne_zero Update.count, sumBy_map, total_eq]

end Renames

namespace Document

variable (doc : Document)

theorem mem_olds_renames_iff_target {id : String} :
    id ∈ doc.renames.map Rename.old ↔ id ≠ Renames.target doc.renames id := by
  constructor
  · intro hold heq
    obtain ⟨rename, hmem, rfl⟩ := List.mem_map.1 hold
    rw [target_renames_of_mem hmem] at heq
    exact new_not_mem_nodeIds hmem (heq ▸ (doc.mem_olds_renames.1 hold).1)
  · intro hmoved
    rcases Renames.target_eq doc.renames id with ⟨rename, hmem, rfl, _⟩ | ⟨_, htarget⟩
    · exact List.mem_map_of_mem hmem
    · exact absurd htarget.symm hmoved

theorem olds_renames_eq :
    doc.renames.map Rename.old =
      (doc.nodeIds.filter fun id => id ≠ Renames.target doc.renames id).eraseDups := by
  have hknown : (Store.of "" doc).index.knownIds .node = (doc.nodeIds.filter (· ≠ "")).eraseDups :=
    (Index.describes_of doc).knownNodes
  have hplan : doc.renames.map Rename.old =
      (doc.nodeIds.filter (· ≠ "")).eraseDups.filter (Store.of "" doc).serviceNames.contains := by
    rw [renames, Store.plannedRenames, Renames.map_old_plan, hknown]
  rw [hplan, filter_eraseDups, List.filter_filter]
  congr 1
  apply List.filter_congr
  intro id hnode
  rw [Bool.eq_iff_iff, Bool.and_eq_true, IdSet.contains_iff, mem_serviceNames_of,
    decide_eq_true_iff, decide_eq_true_iff, ← mem_olds_renames_iff_target, mem_olds_renames]
  tauto

/-- The replacements are the places where the lists of node IDs differ, each once. -/
theorem renames_eq_changes :
    doc.renames =
      ((List.zipWith Rename.mk doc.nodeIds
        (doc.nodeIds.map (Renames.target doc.renames))).filter fun rename =>
          rename.old ≠ rename.new).eraseDups := by
  let moved (id : String) : Rename := ⟨id, Renames.target doc.renames id⟩
  have hinjective : Function.Injective moved := fun _ _ heq => congrArg Rename.old heq
  have hself : (doc.renames.map Rename.old).map moved = doc.renames := by
    rw [List.map_map]
    conv_rhs => rw [← List.map_id doc.renames]
    apply List.map_congr_left
    intro rename hmem
    simp [moved, target_renames_of_mem hmem]
  calc doc.renames = (doc.renames.map Rename.old).map moved := hself.symm
    _ = ((doc.nodeIds.filter fun id => id ≠ Renames.target doc.renames id).eraseDups).map moved :=
      by rw [olds_renames_eq]
    _ = ((doc.nodeIds.map moved).filter fun rename => rename.old ≠ rename.new).eraseDups := by
      rw [List.filter_map, eraseDups_map hinjective]
      rfl
    _ = _ := by rw [List.zipWith_map_right, List.zipWith_self]

end Document

namespace Store

variable (source : String) (doc : Document) (settings : RepairSettings)

theorem snd_renameNodes_of {doc : Document} (h : doc.renames ≠ []) (untyped : Bool) :
    ((of source doc).renameNodes doc.renames untyped).2 =
      (Renames.apply doc.renames untyped doc).2 := by
  rw [renameNodes, if_neg (by simpa using h)]
  rfl

/-- A repair reports the hits of its walk; where there is nothing to replace it reports nothing. -/
theorem hits_repair_of :
    let before := doc.backfill.recorded settings
    let hits := (Renames.apply before.renames settings.renamesInUntyped before).2
    ((of source doc).repair settings).2.updates = Renames.updates before.renames hits ∧
      ((of source doc).repair settings).2.findings.withCode .collisionDetected =
        before.renames.map fun rename =>
          { subject := rename.old
            code := .collisionDetected
            text := "Node ID '" ++ rename.old ++ "' is also a service ID; node renamed to '" ++
              rename.new ++ "'"
            context :=
              [toString (Renames.total hits rename.old) ++ " node-ID position(s) rewritten"] } := by
  intro before hits
  simp only [repair, backfillTasks_of, recorded_of, Document.plannedRenames_of,
    withCode_repairFindings, repairFindingsOf]
  change Renames.updates before.renames _ = _ ∧ _
  by_cases hnone : before.renames = []
  · simp [before, hnone, Renames.updates]
  · simp [before, hits, snd_renameNodes_of source hnone]

end Store

/-- Collisions are the node IDs that have changed, in the order of the nodes.  For each of them and
each kind of position there is one update if and only if such positions held the ID before the walk,
and its count is how many did.  Each collision is reported once, with the number of all positions
that held its ID. -/
theorem updates_count_positions (source : String) (doc : Document) (settings : RepairSettings) :
    let outcome := (Store.of source doc).repair settings
    let collisions := outcome.2.collisions
    let updates := outcome.2.updates
    let before := doc.backfill.recorded settings
    outcome.1.doc = (Renames.apply collisions settings.renamesInUntyped before).1 ∧
      collisions = ((List.zipWith Rename.mk doc.nodeIds outcome.1.doc.nodeIds).filter fun rename =>
        rename.old ≠ rename.new).eraseDups ∧
      (collisions.map Rename.old).Nodup ∧
      (∀ update, update ∈ updates ↔ update.rename ∈ collisions ∧
        update.count =
          (before.idsOfKind settings.renamesInUntyped update.kind).count update.rename.old ∧
        update.count ≠ 0) ∧
      updates.Pairwise (Update.Before collisions) ∧
      outcome.2.findings.withCode .collisionDetected = collisions.map fun rename =>
        { subject := rename.old
          code := .collisionDetected
          text := "Node ID '" ++ rename.old ++ "' is also a service ID; node renamed to '" ++
            rename.new ++ "'"
          context :=
            [toString (sumBy Update.count (updates.filter fun update => update.rename = rename)) ++
              " node-ID position(s) rewritten"] } := by
  intro outcome collisions updates before
  have hcollisions : collisions = before.renames := Store.collisions_repair_of source doc settings
  have hafter : outcome.1.doc = before.renamed settings :=
    congrArg Store.doc (Store.fst_repair_of source doc settings)
  have hnodup : before.renames.Nodup := before.nodup_olds_renames.of_map
  obtain ⟨hupdates, hfindings⟩ := Store.hits_repair_of source doc settings
  change updates = _ at hupdates
  refine ⟨?_, ?_, ?_, ?_, ?_, ?_⟩
  · rw [hafter, hcollisions, Renames.fst_apply, Document.renamed_eq]
    rfl
  · have hnodes : before.nodeIds = doc.nodeIds := Document.nodeIds_recorded settings doc
    rw [hafter, Document.nodeIds_renamed, ← hnodes, hcollisions]
    exact before.renames_eq_changes
  · rw [hcollisions]
    exact before.nodup_olds_renames
  · intro update
    rw [hupdates, hcollisions, Renames.mem_updates]
    apply and_congr_right
    intro hmem
    rw [Renames.count_apply (List.mem_map_of_mem hmem)]
  · rw [hupdates, hcollisions]
    exact Renames.pairwise_updates hnodup _
  · rw [hcollisions]
    refine hfindings.trans (List.map_congr_left fun rename hmem => ?_)
    rw [hupdates, Renames.filter_updates hnodup _ hmem, Renames.sumBy_updatesOf]

end MockCluster
