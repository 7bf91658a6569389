import Mathlib.Data.List.Forall2
import MockCluster.Proofs.OrderedMap
import MockCluster.Views.Backfill
import MockCluster.Views.Filing

/-!
The places that hold groupings, taken together: the node records of the three listings, and the
services with their entries on both dashboards.

Views change a holder by the grouping it holds only, so what is said of all holders is said of all
records.
-/

namespace MockCluster

/-- A record with a place for a grouping. -/
structure Holder where
  /-- Whether the record may be given a grouping it does not have. -/
  gains : Bool
  owner : String
  held : Option Grouping

namespace Holder

def refs (holder : Holder) : List TaskRef := (holder.held.getD ∅).refs

def change (f : Bool → String → Option Grouping → Option Grouping) (holder : Holder) : Holder :=
  { holder with held := f holder.gains holder.owner holder.held }

def ofNode (gains : Bool) (node : Node) : Holder := ⟨gains, node.id, node.tasks⟩

def ofService (service : Service) : Holder := ⟨false, service.id, service.tasks⟩

def ofSummary (gains : Bool) (summary : ServiceSummary) : Holder :=
  ⟨gains, summary.id, summary.tasks⟩

end Holder

namespace Document

/-- Roster nodes gain groupings, other nodes do not. -/
def nodeHolders (doc : Document) : List Holder :=
  doc.nodes.map (Holder.ofNode !doc.usesHorizontalRoster) ++
    doc.horizontal.nodes.map (Holder.ofNode doc.usesHorizontalRoster) ++
    doc.vertical.nodes.map (Holder.ofNode false)

/-- Services of the vertical dashboard gain groupings, others do not. -/
def serviceHolders (doc : Document) : List Holder :=
  doc.services.map Holder.ofService ++
    doc.horizontal.services.map (Holder.ofSummary false) ++
    doc.vertical.services.map (Holder.ofSummary true)

/-- All references that are filed anywhere, in the order in which they are scanned. -/
def filedRefs (doc : Document) : List TaskRef :=
  doc.nodeHolders.flatMap Holder.refs ++ doc.horizontal.unassigned ++
    doc.serviceHolders.flatMap Holder.refs

def withUnassigned (doc : Document) (refs : List TaskRef) : Document :=
  { doc with horizontal := { doc.horizontal with unassigned := refs } }

@[simp] theorem withUnassigned_self (doc : Document) :
    doc.withUnassigned doc.horizontal.unassigned = doc := rfl

@[simp] theorem nodeHolders_withUnassigned (doc : Document) (refs : List TaskRef) :
    (doc.withUnassigned refs).nodeHolders = doc.nodeHolders := rfl

@[simp] theorem serviceHolders_withUnassigned (doc : Document) (refs : List TaskRef) :
    (doc.withUnassigned refs).serviceHolders = doc.serviceHolders := rfl

variable (f g : Bool → String → Option Grouping → Option Grouping) (doc : Document)

@[simp] theorem usesHorizontalRoster_mapNodeGroupings :
    (doc.mapNodeGroupings f).usesHorizontalRoster = doc.usesHorizontalRoster := by
  simp [usesHorizontalRoster, mapNodeGroupings, List.isEmpty_map]

theorem nodeHolders_mapNodeGroupings :
    (doc.mapNodeGroupings f).nodeHolders = doc.nodeHolders.map (Holder.change f) := by
  rw [nodeHolders, usesHorizontalRoster_mapNodeGroupings]
  simp only [nodeHolders, mapNodeGroupings, List.map_append, List.map_map]
  rfl

@[simp] theorem serviceHolders_mapNodeGroupings :
    (doc.mapNodeGroupings f).serviceHolders = doc.serviceHolders := rfl

@[simp] theorem nodeHolders_mapServiceGroupings :
    (doc.mapServiceGroupings f).nodeHolders = doc.nodeHolders := rfl

theorem serviceHolders_mapServiceGroupings :
    (doc.mapServiceGroupings f).serviceHolders = doc.serviceHolders.map (Holder.change f) := by
  simp only [serviceHolders, mapServiceGroupings, List.map_append, List.map_map]
  rfl

variable {f g doc}

theorem mapNodeGroupings_congr
    (h : ∀ holder ∈ doc.nodeHolders, holder.change f = holder.change g) :
    doc.mapNodeGroupings f = doc.mapNodeGroupings g := by
  simp only [nodeHolders, List.mem_append, List.mem_map, or_imp, forall_and,
    forall_exists_index, and_imp, forall_apply_eq_imp_iff₂, Holder.change, Holder.ofNode,
    Holder.mk.injEq, true_and] at h
  obtain ⟨⟨hprimary, hhorizontal⟩, hvertical⟩ := h
  simp only [mapNodeGroupings]
  congr 1
  · apply List.map_congr_left
    intro node hmem
    rw [hprimary node hmem]
  · congr 1
    apply List.map_congr_left
    intro node hmem
    rw [hhorizontal node hmem]
  · congr 1
    apply List.map_congr_left
    intro node hmem
    rw [hvertical node hmem]

theorem mapServiceGroupings_congr
    (h : ∀ holder ∈ doc.serviceHolders, holder.change f = holder.change g) :
    doc.mapServiceGroupings f = doc.mapServiceGroupings g := by
  simp only [serviceHolders, List.mem_append, List.mem_map, or_imp, forall_and,
    forall_exists_index, and_imp, forall_apply_eq_imp_iff₂, Holder.change, Holder.ofService,
    Holder.ofSummary, Holder.mk.injEq, true_and] at h
  obtain ⟨⟨hservices, hhorizontal⟩, hvertical⟩ := h
  simp only [mapServiceGroupings]
  congr 1
  · apply List.map_congr_left
    intro service hmem
    rw [hservices service hmem]
  · congr 1
    apply List.map_congr_left
    intro summary hmem
    rw [hhorizontal summary hmem]
  · congr 1
    apply List.map_congr_left
    intro summary hmem
    rw [hvertical summary hmem]

@[simp] theorem mapNodeGroupings_id (doc : Document) :
    (doc.mapNodeGroupings fun _ _ held => held) = doc := by
  simp [mapNodeGroupings]

@[simp] theorem mapServiceGroupings_id (doc : Document) :
    (doc.mapServiceGroupings fun _ _ held => held) = doc := by
  simp [mapServiceGroupings]

theorem map_id_referencedTasks (doc : Document) :
    doc.referencedTasks.map Task.id = doc.filedRefs.map TaskRef.id := by
  have hrefs : ∀ grouping : Grouping, grouping.refs = grouping.entries.flatMap Prod.snd :=
    fun grouping => by simp [Grouping.refs, OrderedMap.values, List.flatMap]
  simp [referencedTasks, filedRefs, nodeHolders, serviceHolders, allNodes, serviceGroupings,
    summaries, Holder.refs, Holder.ofNode, Holder.ofService, Holder.ofSummary, hrefs,
    List.map_flatMap, List.flatMap_map, Function.comp_def, Task.ofRef]

end Document

end MockCluster
