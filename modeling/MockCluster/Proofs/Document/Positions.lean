import MockCluster.Proofs.Document.Rekey
import MockCluster.Proofs.Document.Walk
import MockCluster.Proofs.SumBy

/-!
The positions of a document: where node IDs stand, and all untyped data.  A walk meets each of them
once, also where it moves buckets on its way.

What a visitor does is measured by a number that each position raises by an amount of its own.
-/

namespace MockCluster

/-! Positions as they are read off a document. -/

def NodeIdSite.all : List NodeIdSite :=
  [.nodeRecord .primary, .nodeRecord .horizontal, .nodeRecord .vertical, .taskNodeId,
    .groupingEntry, .unassignedEntry, .serviceGroupingKey]

def TaskRef.untypedMaps (ref : TaskRef) : List Members :=
  (ref.status.map TaskStatus.untyped).toList ++ [ref.untyped]

def Task.untypedMaps (task : Task) : List Members :=
  (task.status.map TaskStatus.untyped).toList ++ [task.untyped]

def EndpointSpec.untypedMaps (spec : EndpointSpec) : List Members :=
  spec.ports.map PortSpec.untyped ++ [spec.untyped]

def Endpoint.untypedMaps (endpoint : Endpoint) : List Members :=
  endpoint.ports.map PortSpec.untyped ++ endpoint.spec.toList.flatMap EndpointSpec.untypedMaps ++
    [endpoint.untyped]

/-- Without its references.  The labels of a service are typed, and so not among them. -/
def Service.untypedMaps (service : Service) : List Members :=
  (service.spec.map ServiceSpec.untyped).toList ++
    service.endpoint.toList.flatMap Endpoint.untypedMaps ++ [service.untyped]

def Stack.untypedMaps (stack : Stack) : List Members :=
  stack.services.map StackService.untyped ++ [stack.untyped]

namespace Document

/-- The references that node records and services group. -/
def groupingRefs (doc : Document) : List TaskRef :=
  doc.nodeHolders.flatMap Holder.refs ++ doc.serviceHolders.flatMap Holder.refs

/-- The IDs that stand at the positions of one kind. -/
def nodeIdsAt (doc : Document) : NodeIdSite → List String
  | .nodeRecord listing => (doc.listing listing).map Node.id
  | .taskNodeId => doc.tasks.filterMap Task.nodeId
  | .groupingEntry => doc.groupingRefs.filterMap TaskRef.nodeId
  | .unassignedEntry => doc.horizontal.unassigned.filterMap TaskRef.nodeId
  | .serviceGroupingKey => doc.serviceHolders.flatMap fun holder => (holder.held.getD ∅).keys

def untypedMaps (doc : Document) : List Members :=
  doc.allNodes.map Node.untyped ++ doc.services.flatMap Service.untypedMaps ++
    doc.summaries.map ServiceSummary.untyped ++
    (doc.groupingRefs ++ doc.horizontal.unassigned).flatMap TaskRef.untypedMaps ++
    doc.tasks.flatMap Task.untypedMaps ++ doc.stackRecords.flatMap Stack.untypedMaps ++
    doc.logServices.map LogService.untyped ++ doc.ports.map PortEntry.untyped ++
    [doc.horizontal.untyped, doc.vertical.untyped, doc.untyped]

end Document

/-! Actions and the numbers they raise. -/

variable {σ α β : Type} {μ : σ → Nat}

/-- The action raises a measure of the state by an amount that the state has no part in. -/
def Raises (μ : σ → Nat) (action : StateM σ α) (amount : Nat) : Prop :=
  ∀ state : σ, μ (action.run state).run.2 = μ state + amount

namespace Raises

theorem of_pure (value : α) : Raises μ (pure value : StateM σ α) 0 := fun _ => rfl

/-- What comes next may go by the value of the action, which is always the same. -/
theorem bind_of_returns {action : StateM σ α} {value : α} {next : α → StateM σ β} {n m : Nat}
    (hvalue : Returns action value) (h : Raises μ action n) (hnext : Raises μ (next value) m) :
    Raises μ (action >>= next) (n + m) := by
  intro state
  change μ ((next (action.run state).run.1).run (action.run state).run.2).run.2 = _
  rw [hvalue state, hnext, h, Nat.add_assoc]

theorem bind {action : StateM σ α} {next : α → StateM σ β} {n m : Nat} (h : Raises μ action n)
    (hnext : ∀ value, Raises μ (next value) m) : Raises μ (action >>= next) (n + m) := by
  intro state
  change μ ((next (action.run state).run.1).run (action.run state).run.2).run.2 = _
  rw [hnext, h, Nat.add_assoc]

/-- A pure step at the end raises nothing. -/
theorem map {action : StateM σ α} {f : α → β} {n : Nat} (h : Raises μ action n) :
    Raises μ (action >>= fun value => pure (f value)) n :=
  h.bind fun _ => of_pure _

theorem congr {action : StateM σ α} {n m : Nat} (h : Raises μ action n) (heq : n = m) :
    Raises μ action m := heq ▸ h

theorem onSome {f : α → StateM σ α} {amount : α → Nat} (h : ∀ a, Raises μ (f a) (amount a))
    (value : Option α) : Raises μ (MockCluster.onSome f value) (sumBy amount value.toList) := by
  cases value with
  | none => exact of_pure none
  | some value => exact (h value).map

theorem list {f : α → StateM σ β} {amount : α → Nat} (h : ∀ a, Raises μ (f a) (amount a))
    (items : List α) : Raises μ (items.mapM f) (sumBy amount items) := by
  induction items with
  | nil => exact of_pure []
  | cons first rest ih =>
      rw [List.mapM_cons, sumBy_cons]
      exact (h first).bind fun _ => ih.map

theorem foldl {f : β → α → StateM σ β} {amount : α → Nat} (h : ∀ b a, Raises μ (f b a) (amount a))
    (items : List α) (start : β) : Raises μ (items.foldlM f start) (sumBy amount items) := by
  induction items generalizing start with
  | nil => exact of_pure start
  | cons first rest ih =>
      rw [List.foldlM_cons, sumBy_cons]
      exact (h start first).bind ih

theorem entries {f : α → StateM σ β} {amount : α → Nat} (h : ∀ a, Raises μ (f a) (amount a))
    (entries : List (String × α)) :
    Raises μ (OrderedMap.mapEntriesM f entries) (sumBy (fun entry => amount entry.2) entries) := by
  induction entries with
  | nil => exact of_pure _
  | cons entry rest ih =>
      obtain ⟨key, value⟩ := entry
      exact (h value).bind fun _ => ih.map

theorem orderedMap {f : α → StateM σ β} {amount : α → Nat} (h : ∀ a, Raises μ (f a) (amount a))
    (map : OrderedMap α) : Raises μ (map.mapM f) (sumBy amount map.values) := by
  rw [OrderedMap.values, sumBy_map]
  exact (entries h map.entries).map

end Raises

theorem Grouping.map_snd_filings (grouping : Grouping) :
    grouping.filings.map Prod.snd = grouping.refs := by
  simp [filings, refs, OrderedMap.values, List.flatMap, Function.comp_def]

/-- Whichever buckets have moved, and in whatever order, the references are the same. -/
theorem Substitution.refs_rekey_perm (s : Substitution) (grouping : Grouping) :
    (s.rekey grouping).refs.Perm grouping.refs := by
  have hfilings := (s.filings_foldl_move_perm grouping.keys grouping).map Prod.snd
  rwa [Grouping.map_snd_filings, List.map_map, show Prod.snd ∘ Prod.map _ id = Prod.snd from rfl,
    Grouping.map_snd_filings] at hfilings

/-- What each position counts for. -/
structure Tally where
  nodeId : NodeIdSite → String → Nat
  untyped : Members → Nat

namespace Tally

variable (t : Tally)

def ref (site : NodeIdSite) (ref : TaskRef) : Nat :=
  sumBy (t.nodeId site) ref.nodeId.toList + sumBy t.untyped ref.untypedMaps

def nodeGrouping (grouping : Grouping) : Nat := sumBy (t.ref .groupingEntry) grouping.refs

def serviceGrouping (grouping : Grouping) : Nat :=
  sumBy (t.nodeId .serviceGroupingKey) grouping.keys + t.nodeGrouping grouping

def node (listing : NodeListing) (node : Node) : Nat :=
  t.nodeId (.nodeRecord listing) node.id + sumBy t.nodeGrouping node.tasks.toList +
    t.untyped node.untyped

def service (service : Service) : Nat :=
  sumBy t.serviceGrouping service.tasks.toList + sumBy t.untyped service.untypedMaps

def summary (summary : ServiceSummary) : Nat :=
  sumBy t.serviceGrouping summary.tasks.toList + t.untyped summary.untyped

def task (task : Task) : Nat :=
  sumBy (t.nodeId .taskNodeId) task.nodeId.toList + sumBy t.untyped task.untypedMaps

/-- Everything in a document, kind by kind. -/
def document (doc : Document) : Nat :=
  sumBy (fun site => sumBy (t.nodeId site) (doc.nodeIdsAt site)) NodeIdSite.all +
    sumBy t.untyped doc.untypedMaps

theorem sumBy_ref (site : NodeIdSite) (refs : List TaskRef) :
    sumBy (t.ref site) refs =
      sumBy (t.nodeId site) (refs.filterMap TaskRef.nodeId) +
        sumBy t.untyped (refs.flatMap TaskRef.untypedMaps) := by
  rw [sumBy_filterMap, sumBy_flatMap, ← sumBy_add]
  rfl

theorem sumBy_task (tasks : List Task) :
    sumBy t.task tasks =
      sumBy (t.nodeId .taskNodeId) (tasks.filterMap Task.nodeId) +
        sumBy t.untyped (tasks.flatMap Task.untypedMaps) := by
  rw [sumBy_filterMap, sumBy_flatMap, ← sumBy_add]
  rfl

theorem sumBy_held (held : Option Grouping) :
    sumBy t.nodeGrouping held.toList = sumBy (t.ref .groupingEntry) (held.getD ∅).refs := by
  cases held <;> rfl

theorem sumBy_heldByNode (held : Option Grouping) :
    sumBy t.serviceGrouping held.toList =
      sumBy (t.nodeId .serviceGroupingKey) (held.getD ∅).keys +
        sumBy (t.ref .groupingEntry) (held.getD ∅).refs := by
  cases held <;> rfl

theorem sumBy_node (listing : NodeListing) (gains : Bool) (nodes : List Node) :
    sumBy (t.node listing) nodes =
      sumBy (t.nodeId (.nodeRecord listing)) (nodes.map Node.id) +
        sumBy (t.ref .groupingEntry) ((nodes.map (Holder.ofNode gains)).flatMap Holder.refs) +
        sumBy t.untyped (nodes.map Node.untyped) := by
  rw [List.flatMap_map, sumBy_map, sumBy_flatMap, sumBy_map, ← sumBy_add, ← sumBy_add]
  congr 1
  funext node
  rw [Tally.node, sumBy_held]
  rfl

theorem sumBy_service (services : List Service) :
    sumBy t.service services =
      sumBy (t.nodeId .serviceGroupingKey)
          ((services.map Holder.ofService).flatMap fun holder => (holder.held.getD ∅).keys) +
        sumBy (t.ref .groupingEntry) ((services.map Holder.ofService).flatMap Holder.refs) +
        sumBy t.untyped (services.flatMap Service.untypedMaps) := by
  rw [List.flatMap_map, List.flatMap_map, sumBy_flatMap, sumBy_flatMap, sumBy_flatMap, ← sumBy_add,
    ← sumBy_add]
  congr 1
  funext service
  rw [Tally.service, sumBy_heldByNode]
  rfl

theorem sumBy_summary (gains : Bool) (summaries : List ServiceSummary) :
    sumBy t.summary summaries =
      sumBy (t.nodeId .serviceGroupingKey)
          ((summaries.map (Holder.ofSummary gains)).flatMap fun holder =>
            (holder.held.getD ∅).keys) +
        sumBy (t.ref .groupingEntry)
          ((summaries.map (Holder.ofSummary gains)).flatMap Holder.refs) +
        sumBy t.untyped (summaries.map ServiceSummary.untyped) := by
  rw [List.flatMap_map, List.flatMap_map, sumBy_flatMap, sumBy_flatMap, sumBy_map, ← sumBy_add,
    ← sumBy_add]
  congr 1
  funext summary
  rw [Tally.summary, sumBy_heldByNode]
  rfl

/-- The same record by record, in the order of the walk. -/
theorem document_eq (doc : Document) :
    t.document doc =
      sumBy (t.node .primary) doc.nodes + (sumBy (t.node .horizontal) doc.horizontal.nodes +
        (sumBy (t.node .vertical) doc.vertical.nodes + (sumBy t.service doc.services +
        (sumBy t.summary doc.horizontal.services + (sumBy t.summary doc.vertical.services +
        (sumBy (t.ref .unassignedEntry) doc.horizontal.unassigned + (sumBy t.task doc.tasks +
        (sumBy (fun stack => sumBy t.untyped stack.untypedMaps) doc.stackRecords +
        (sumBy (fun service => t.untyped service.untyped) doc.logServices +
        (sumBy (fun entry => t.untyped entry.untyped) doc.ports +
        (t.untyped doc.horizontal.untyped +
        (t.untyped doc.vertical.untyped + t.untyped doc.untyped)))))))))))) := by
  rw [t.sumBy_node .primary (!doc.usesHorizontalRoster),
    t.sumBy_node .horizontal doc.usesHorizontalRoster, t.sumBy_node .vertical false,
    t.sumBy_service, t.sumBy_summary false, t.sumBy_summary true, t.sumBy_ref, t.sumBy_task]
  simp only [document, NodeIdSite.all, Document.nodeIdsAt, Document.listing,
    Document.untypedMaps, Document.groupingRefs, Document.nodeHolders, Document.serviceHolders,
    Document.allNodes, Document.summaries, t.sumBy_ref]
  simp only [List.flatMap_append, List.filterMap_append, List.map_append, sumBy_append, sumBy_cons,
    sumBy_nil, sumBy_map, sumBy_flatMap]
  omega

variable {t}

theorem document_eq_zero (hnodeId : ∀ site id, t.nodeId site id = 0)
    (huntyped : ∀ members, t.untyped members = 0) (doc : Document) : t.document doc = 0 := by
  rw [document, sumBy_eq_zero huntyped, sumBy_eq_zero fun site => sumBy_eq_zero (hnodeId site) _]

end Tally

namespace Visitor

/-- The visitor raises a measure by what the tally says of a position, and leaves tasks to the
walk. -/
structure Counts (visitor : Visitor (StateM σ)) (μ : σ → Nat) (t : Tally) : Prop where
  nodeId : ∀ site id, Raises μ (visitor.nodeId site id) (t.nodeId site id)
  task : ∀ task, Raises μ (visitor.task task) 0
  untyped : ∀ members, Raises μ (visitor.untyped members) (t.untyped members)

namespace Counts

variable {visitor : Visitor (StateM σ)} {t : Tally} (h : visitor.Counts μ t)

include h

theorem status (status : TaskStatus) :
    Raises μ (visitor.status status) (t.untyped status.untyped) :=
  (h.untyped _).map

theorem ref (site : NodeIdSite) (ref : TaskRef) :
    Raises μ (visitor.ref site ref) (t.ref site ref) := by
  apply Raises.congr <| (Raises.onSome (h.nodeId site) _).bind fun _ =>
    (Raises.onSome h.status _).bind fun _ => (h.untyped _).map
  cases hstatus : ref.status <;> simp [Tally.ref, TaskRef.untypedMaps, hstatus]

theorem nodeGrouping (grouping : Grouping) :
    Raises μ (visitor.nodeGrouping grouping) (t.nodeGrouping grouping) := by
  apply Raises.congr <| Raises.orderedMap (fun refs => .list (h.ref .groupingEntry) refs) grouping
  exact (sumBy_flatMap _ id _).symm.trans (by rw [List.flatMap_id]; rfl)

/-- The references are met after the buckets have moved. -/
theorem serviceGrouping {s : Substitution} (hfollows : visitor.Follows s) (grouping : Grouping) :
    Raises μ (visitor.serviceGrouping grouping) (t.serviceGrouping grouping) := by
  have hrefs : t.nodeGrouping (s.rekey grouping) = t.nodeGrouping grouping :=
    sumBy_perm _ (s.refs_rekey_perm grouping)
  have hmoves : ∀ (moved : Grouping) (key : String),
      Returns (return moved.move key (← visitor.nodeId .serviceGroupingKey key))
        (moved.move key (s.nodeId key)) :=
    fun _ key => (hfollows.nodeId .serviceGroupingKey key).bind (.of_pure _)
  rw [Tally.serviceGrouping, ← hrefs]
  exact .bind_of_returns (.foldl hmoves _ _)
    (Raises.foldl (fun _ key => (h.nodeId .serviceGroupingKey key).map) _ _) (h.nodeGrouping _)

theorem node (listing : NodeListing) (node : Node) :
    Raises μ (visitor.node listing node) (t.node listing node) := by
  apply Raises.congr <| (h.nodeId _ _).bind fun _ =>
    (Raises.onSome h.nodeGrouping _).bind fun _ => (h.untyped _).map
  exact (Nat.add_assoc _ _ _).symm

theorem portSpec (spec : PortSpec) : Raises μ (visitor.portSpec spec) (t.untyped spec.untyped) :=
  (h.untyped _).map

theorem endpoint (endpoint : Endpoint) :
    Raises μ (visitor.endpoint endpoint) (sumBy t.untyped endpoint.untypedMaps) := by
  have hspec : ∀ spec : EndpointSpec, Raises μ (do
      let ports ← spec.ports.mapM visitor.portSpec
      let untyped ← visitor.untyped spec.untyped
      return { spec with ports := ports, untyped := untyped })
        (sumBy t.untyped spec.untypedMaps) := by
    intro spec
    apply Raises.congr <| (Raises.list h.portSpec _).bind fun _ => (h.untyped _).map
    simp [EndpointSpec.untypedMaps]
  apply Raises.congr <| (Raises.list h.portSpec _).bind fun _ =>
    (Raises.onSome hspec _).bind fun _ => (h.untyped _).map
  simp [Endpoint.untypedMaps]

theorem service {s : Substitution} (hfollows : visitor.Follows s) (service : Service) :
    Raises μ (visitor.service service) (t.service service) := by
  have hspec : ∀ spec : ServiceSpec, Raises μ (do
      let untyped ← visitor.untyped spec.untyped
      return { spec with untyped := untyped }) (t.untyped spec.untyped) := fun spec =>
    (h.untyped _).map
  apply Raises.congr <| (Raises.onSome (h.serviceGrouping hfollows) _).bind fun _ =>
    (Raises.onSome hspec _).bind fun _ => (Raises.onSome h.endpoint _).bind fun _ =>
    (h.untyped _).map
  cases hspec : service.spec <;>
    simp [Tally.service, Service.untypedMaps, hspec]

theorem summary {s : Substitution} (hfollows : visitor.Follows s) (summary : ServiceSummary) :
    Raises μ (visitor.summary summary) (t.summary summary) :=
  (Raises.onSome (h.serviceGrouping hfollows) _).bind fun _ => (h.untyped _).map

theorem flatTask {s : Substitution} (hfollows : visitor.Follows s) (task : Task) :
    Raises μ (visitor.flatTask task) (t.task task) := by
  apply Raises.congr <| Raises.bind_of_returns (hfollows.task task) (h.task task) <|
    (Raises.onSome (h.nodeId _) _).bind fun _ => (Raises.onSome h.status _).bind fun _ =>
      (h.untyped _).map
  cases hstatus : task.status <;> simp [Tally.task, Task.untypedMaps, hstatus]

theorem stack (stack : Stack) :
    Raises μ (visitor.stack stack) (sumBy t.untyped stack.untypedMaps) := by
  have hservice : ∀ service : StackService, Raises μ (do
      let untyped ← visitor.untyped service.untyped
      return { service with untyped := untyped }) (t.untyped service.untyped) := fun service =>
    (h.untyped _).map
  apply Raises.congr <| (Raises.list hservice _).bind fun _ => (h.untyped _).map
  simp [Stack.untypedMaps]

theorem logService (service : LogService) :
    Raises μ (visitor.logService service) (t.untyped service.untyped) :=
  (h.untyped _).map

theorem portEntry (entry : PortEntry) :
    Raises μ (visitor.portEntry entry) (t.untyped entry.untyped) :=
  (h.untyped _).map

/-- A walk meets each position of a document exactly once. -/
theorem walk {s : Substitution} (hfollows : visitor.Follows s) (doc : Document) :
    Raises μ (doc.walk visitor) (t.document doc) := by
  rw [t.document_eq]
  exact (Raises.list (h.node .primary) _).bind fun _ =>
    (Raises.list (h.node .horizontal) _).bind fun _ =>
    (Raises.list (h.node .vertical) _).bind fun _ =>
    (Raises.list (h.service hfollows) _).bind fun _ =>
    (Raises.list (h.summary hfollows) _).bind fun _ =>
    (Raises.list (h.summary hfollows) _).bind fun _ =>
    (Raises.list (h.ref .unassignedEntry) _).bind fun _ =>
    (Raises.list (h.flatTask hfollows) _).bind fun _ =>
    (Raises.list h.stack _).bind fun _ => (Raises.list h.logService _).bind fun _ =>
    (Raises.list h.portEntry _).bind fun _ => (h.untyped _).bind fun _ =>
    (h.untyped _).bind fun _ => (h.untyped _).map

end Counts

end Visitor

/-! What a substitution puts at the positions. -/

namespace Substitution

variable (s : Substitution)

theorem untypedMaps_ref (ref : TaskRef) :
    (s.ref ref).untypedMaps = ref.untypedMaps.map s.untyped := by
  cases hstatus : ref.status <;> simp [Substitution.ref, TaskRef.untypedMaps, hstatus, status]

theorem untypedMaps_task (task : Task) :
    (s.task task).untypedMaps = task.untypedMaps.map s.untyped := by
  cases hstatus : task.status <;> simp [Substitution.task, Task.untypedMaps, hstatus, status]

theorem untypedMaps_endpointSpec (spec : EndpointSpec) :
    (s.endpointSpec spec).untypedMaps = spec.untypedMaps.map s.untyped := by
  simp [Substitution.endpointSpec, EndpointSpec.untypedMaps, portSpec, Function.comp_def]

theorem untypedMaps_endpoint (endpoint : Endpoint) :
    (s.endpoint endpoint).untypedMaps = endpoint.untypedMaps.map s.untyped := by
  cases hspec : endpoint.spec <;>
    simp [Substitution.endpoint, Endpoint.untypedMaps, hspec, portSpec, untypedMaps_endpointSpec,
      Function.comp_def]

theorem untypedMaps_service (service : Service) :
    (s.service service).untypedMaps = service.untypedMaps.map s.untyped := by
  cases hspec : service.spec <;> cases hendpoint : service.endpoint <;>
    simp [Substitution.service, Service.untypedMaps, hspec, hendpoint, serviceSpec,
      untypedMaps_endpoint]

theorem untypedMaps_stack (stack : Stack) :
    (s.stack stack).untypedMaps = stack.untypedMaps.map s.untyped := by
  simp [Substitution.stack, Stack.untypedMaps, stackService, Function.comp_def]

end Substitution

namespace Tally

variable (t : Tally) (s : Substitution)

/-- What each position counts for after a substitution. -/
def after : Tally where
  nodeId site id := t.nodeId site (s.nodeId id)
  untyped members := t.untyped (s.untyped members)

theorem ref_after (site : NodeIdSite) (ref : TaskRef) :
    t.ref site (s.ref ref) = (t.after s).ref site ref := by
  rw [Tally.ref, s.untypedMaps_ref, sumBy_map]
  change sumBy _ (ref.nodeId.map s.nodeId).toList + _ = _
  rw [Option.toList_map, sumBy_map]
  rfl

theorem nodeGrouping_after (grouping : Grouping) :
    t.nodeGrouping (s.nodeGrouping grouping) = (t.after s).nodeGrouping grouping := by
  rw [nodeGrouping, s.refs_nodeGrouping, sumBy_map]
  simp only [ref_after]
  rfl

theorem node_after (listing : NodeListing) (node : Node) :
    t.node listing (s.node node) = (t.after s).node listing node := by
  rw [Tally.node]
  change _ + sumBy _ (node.tasks.map s.nodeGrouping).toList + _ = _
  rw [Option.toList_map, sumBy_map]
  simp only [nodeGrouping_after]
  rfl

theorem task_after (task : Task) : t.task (s.task task) = (t.after s).task task := by
  rw [Tally.task, s.untypedMaps_task, sumBy_map]
  change sumBy _ (task.nodeId.map s.nodeId).toList + _ = _
  rw [Option.toList_map, sumBy_map]
  rfl

/-! Keys may fall together, so they must not count. -/

variable {t} (hkeys : ∀ key, t.nodeId .serviceGroupingKey key = 0)

include hkeys

theorem serviceGrouping_after (grouping : Grouping) :
    t.serviceGrouping (s.serviceGrouping grouping) = (t.after s).serviceGrouping grouping := by
  have hafter : ∀ key, (t.after s).nodeId .serviceGroupingKey key = 0 := fun key =>
    hkeys (s.nodeId key)
  rw [serviceGrouping, serviceGrouping, sumBy_eq_zero hkeys, sumBy_eq_zero hafter,
    Substitution.serviceGrouping, nodeGrouping_after, nodeGrouping, nodeGrouping,
    sumBy_perm _ (s.refs_rekey_perm grouping)]

theorem heldByNode_after (held : Option Grouping) :
    sumBy t.serviceGrouping (held.map s.serviceGrouping).toList =
      sumBy (t.after s).serviceGrouping held.toList := by
  rw [Option.toList_map, sumBy_map]
  simp only [serviceGrouping_after s hkeys]

theorem service_after (service : Service) :
    t.service (s.service service) = (t.after s).service service := by
  rw [Tally.service, s.untypedMaps_service, sumBy_map]
  exact congrArg (· + _) (heldByNode_after s hkeys service.tasks)

theorem summary_after (summary : ServiceSummary) :
    t.summary (s.summary summary) = (t.after s).summary summary :=
  congrArg (· + _) (heldByNode_after s hkeys summary.tasks)

theorem document_after (doc : Document) :
    t.document (s.document doc) = (t.after s).document doc := by
  rw [document_eq, document_eq]
  simp only [Substitution.document, sumBy_map, node_after, service_after s hkeys,
    summary_after s hkeys, ref_after, task_after, s.untypedMaps_stack]
  rfl

end Tally

end MockCluster
