import MockCluster.Views.Backfill
import MockCluster.Views.Filing

/-!
Bringing the views of a document in line with its task list.

Tasks that only a grouping knows join the list first.  Then each grouping is replaced by what the
list says of it; references that stay keep their untyped data.  The timeline comes last.
-/

namespace MockCluster

/-- Each reference takes over the untyped data of the first former one to the same task. -/
def keepUntyped (former refs : List TaskRef) : List TaskRef :=
  refs.map fun ref =>
    match former.find? fun old => old.id = ref.id with
    | some old => { ref with untyped := old.untyped }
    | none => ref

namespace Grouping

def refile (gains : Bool) (projected : Grouping) (held : Option Grouping) : Option Grouping :=
  if projected.refs.isEmpty then held.map fun _ => ∅
  else
    match held with
    | some former => some (projected.map (keepUntyped (Grouping.refs former)))
    | none => if gains then some projected else none

def pairs (held : Option Grouping) : List (String × String) :=
  (held.getD ∅).entries.flatMap fun (key, refs) => refs.map fun ref => (key, ref.id)

end Grouping

/-- The items that were not among the former ones, repetitions included. -/
def countAdded {α : Type} [DecidableEq α] (former current : List α) : Nat :=
  current.countP (· ∉ former)

/-- The former items that are gone, each counted once: as many as there were, less those kept. -/
def countGone {α : Type} [DecidableEq α] (former current : List α) : Nat :=
  former.eraseDups.length - (current.filter (· ∈ former)).eraseDups.length

structure ViewStats where
  backfilled : Nat
  nodeRefsAdded : Nat
  serviceRefsAdded : Nat
  unassignedRefsAdded : Nat
  staleRefsRemoved : Nat
  timelineEntries : Nat
  deriving DecidableEq, Repr

def ViewStats.toJson (stats : ViewStats) : Json :=
  .object
    [("backfilled", .ofNat stats.backfilled),
      ("node_refs_added", .ofNat stats.nodeRefsAdded),
      ("service_refs_added", .ofNat stats.serviceRefsAdded),
      ("unassigned_refs_added", .ofNat stats.unassignedRefsAdded),
      ("stale_refs_removed", .ofNat stats.staleRefsRemoved),
      ("timeline_entries", .ofNat stats.timelineEntries)]

namespace Document

def refileViews (doc : Document) : Document :=
  let byNode := projectNodes doc.tasks
  let byService := projectServices doc.tasks
  let grouped :=
    (doc.mapNodeGroupings fun gains id held => Grouping.refile gains (byNode.of id) held)
      |>.mapServiceGroupings fun gains id held => Grouping.refile gains (byService.of id) held
  { grouped with
    horizontal :=
      { grouped.horizontal with
        unassigned := keepUntyped doc.horizontal.unassigned (projectUnassigned doc.tasks) } }

def sync (doc : Document) : Document := doc.backfill.refileViews.regenerateTimeline

def sumOver (count : List (String × String) → List (String × String) → Nat)
    (former current : List (String × Option Grouping)) : Nat :=
  (former.zip current).foldl (fun total (old, new) =>
    total + count (Grouping.pairs old.2) (Grouping.pairs new.2)) 0

def viewChanges (former current : Document) : ViewStats :=
  let unassigned (doc : Document) := doc.horizontal.unassigned.map TaskRef.id
  { backfilled := current.tasks.length - former.tasks.length
    nodeRefsAdded := sumOver countAdded former.nodeGroupings current.nodeGroupings
    serviceRefsAdded := sumOver countAdded former.serviceGroupings current.serviceGroupings
    unassignedRefsAdded := countAdded (unassigned former) (unassigned current)
    staleRefsRemoved :=
      sumOver countGone former.nodeGroupings current.nodeGroupings +
        countGone (unassigned former) (unassigned current) +
        sumOver countGone former.serviceGroupings current.serviceGroupings
    timelineEntries := current.timeline.length }

def syncStats (doc : Document) : ViewStats := viewChanges doc doc.sync

end Document

end MockCluster
