import MockCluster.Proofs.Document.Substitution
import MockCluster.Proofs.Views.Insertion

/-!
The IDs of a document listing by listing, and two ways in which a change may keep them: equal node
IDs stay equal and different ones different, and the entries of service listings keep their places.
-/

namespace MockCluster

namespace Document

def nodeListings (doc : Document) : List (List String) :=
  NodeListing.all.map fun listing => (doc.listing listing).map Node.id

def serviceListings (doc : Document) : List (List String) :=
  [doc.serviceIds, doc.horizontal.services.map ServiceSummary.id,
    doc.vertical.services.map ServiceSummary.id, doc.logServices.map LogService.id] ++
    doc.stackRecords.map fun stack => stack.services.map StackService.id

theorem flatten_nodeListings (doc : Document) : doc.nodeListings.flatten = doc.nodeIds := by
  simp [nodeListings, NodeListing.all, listing, nodeIds, allNodes]

theorem flatten_serviceListings (doc : Document) :
    doc.serviceListings.flatten = doc.listedServiceIds := by
  simp [serviceListings, listedServiceIds, summaries, List.flatMap]

/-- Every node record is in its place, and two of them have the same ID if and only if they had the
same ID before. -/
structure NodesKept (before after : Document) : Prop where
  lengths : after.nodeListings.map List.length = before.nodeListings.map List.length
  same_iff : ∀ i j : Nat,
    after.nodeIds[i]? = after.nodeIds[j]? ↔ before.nodeIds[i]? = before.nodeIds[j]?

/-- Every entry of a service listing is in its place with the ID it had. -/
def ServiceIdsKept (before after : Document) : Prop :=
  ∀ (i : Nat) (ids : List String), before.serviceListings[i]? = some ids →
    ∃ grown, after.serviceListings[i]? = some grown ∧ ids <+: grown

variable {first second third : Document}

theorem NodesKept.of_eq (h : second.nodeListings = first.nodeListings) :
    NodesKept first second := by
  refine ⟨by rw [h], fun i j => ?_⟩
  rw [← flatten_nodeListings, h, flatten_nodeListings]

theorem NodesKept.trans (h : NodesKept first second) (h' : NodesKept second third) :
    NodesKept first third :=
  ⟨h'.lengths.trans h.lengths, fun i j => (h'.same_iff i j).trans (h.same_iff i j)⟩

theorem ServiceIdsKept.of_eq (h : second.serviceListings = first.serviceListings) :
    ServiceIdsKept first second := fun _ ids hids =>
  ⟨ids, h ▸ hids, List.prefix_refl ids⟩

theorem ServiceIdsKept.trans (h : ServiceIdsKept first second)
    (h' : ServiceIdsKept second third) : ServiceIdsKept first third := by
  intro i ids hids
  obtain ⟨grown, hgrown, hgrows⟩ := h i ids hids
  obtain ⟨final, hfinal, hgrows'⟩ := h' i grown hgrown
  exact ⟨final, hfinal, hgrows.trans hgrows'⟩

structure SameListings (before after : Document) : Prop where
  nodes : after.nodeListings = before.nodeListings
  services : after.serviceListings = before.serviceListings

namespace SameListings

theorem refl (doc : Document) : SameListings doc doc := ⟨rfl, rfl⟩

theorem trans (h : SameListings first second) (h' : SameListings second third) :
    SameListings first third :=
  ⟨h'.nodes.trans h.nodes, h'.services.trans h.services⟩

theorem nodeIds_eq (h : SameListings first second) : second.nodeIds = first.nodeIds := by
  rw [← flatten_nodeListings, h.nodes, flatten_nodeListings]

theorem serviceIds_eq (h : SameListings first second) : second.serviceIds = first.serviceIds :=
  (List.cons.inj h.services).1

theorem listedServiceIds_eq (h : SameListings first second) :
    second.listedServiceIds = first.listedServiceIds := by
  rw [← flatten_serviceListings, h.services, flatten_serviceListings]

end SameListings

theorem sameListings_mapNodeGroupings
    (f : Bool → String → Option Grouping → Option Grouping) (doc : Document) :
    SameListings doc (doc.mapNodeGroupings f) where
  nodes := by
    simp [nodeListings, NodeListing.all, listing, mapNodeGroupings, Function.comp_def]
  services := rfl

theorem sameListings_mapServiceGroupings
    (f : Bool → String → Option Grouping → Option Grouping) (doc : Document) :
    SameListings doc (doc.mapServiceGroupings f) where
  nodes := rfl
  services := by
    simp [serviceListings, serviceIds, mapServiceGroupings, Function.comp_def]

theorem sameListings_sync (doc : Document) : SameListings doc doc.sync := by
  have hgroupings :=
    (sameListings_mapNodeGroupings (projectNodes doc.sync.tasks).refiled doc.backfill).trans
      (sameListings_mapServiceGroupings (projectServices doc.sync.tasks).refiled _)
  exact ⟨hgroupings.nodes, hgroupings.services⟩

theorem sameListings_insertTask (doc : Document) (task : Task) :
    SameListings doc (doc.insertTask task) := by
  have hfiled : SameListings doc (doc.fileTask task) := by
    rw [fileTask_eq]
    have hgroupings := (sameListings_mapNodeGroupings (fileAt task.nodePlace task.ref) doc).trans
      (sameListings_mapServiceGroupings (fileAt task.servicePlace task.ref) _)
    exact ⟨hgroupings.nodes, hgroupings.services⟩
  exact ⟨hfiled.nodes, hfiled.services⟩

theorem sameListings_insertTasks (tasks : List Task) (doc : Document) :
    SameListings doc (tasks.foldl insertTask doc) := by
  induction tasks generalizing doc with
  | nil => exact .refl doc
  | cons task rest ih => exact (sameListings_insertTask doc task).trans (ih _)

end Document

namespace Substitution

variable (s : Substitution) (doc : Document)

theorem nodeListings_document :
    (s.document doc).nodeListings = doc.nodeListings.map (List.map s.nodeId) := by
  simp [Document.nodeListings, Function.comp_def]

theorem serviceListings_document :
    (s.document doc).serviceListings = doc.serviceListings := by
  simp [Document.serviceListings, Document.serviceIds, document, stack, Function.comp_def]

theorem nodesKept_document
    (h : ∀ first ∈ doc.nodeIds, ∀ second ∈ doc.nodeIds,
      s.nodeId first = s.nodeId second → first = second) :
    Document.NodesKept doc (s.document doc) where
  lengths := by
    rw [nodeListings_document, List.map_map]
    simp [Function.comp_def]
  same_iff := by
    intro i j
    rw [nodeIds_document, List.getElem?_map, List.getElem?_map]
    constructor
    · intro heq
      cases hi : doc.nodeIds[i]? with
      | none => cases hj : doc.nodeIds[j]? <;> simp_all
      | some first =>
          cases hj : doc.nodeIds[j]? with
          | none => simp_all
          | some second =>
              rw [hi, hj] at heq
              exact congrArg some (h first (List.mem_of_getElem? hi) second
                (List.mem_of_getElem? hj) (Option.some.inj heq))
    · intro heq
      rw [heq]

end Substitution

end MockCluster
