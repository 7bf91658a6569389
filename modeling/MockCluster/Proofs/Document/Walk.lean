import MockCluster.Proofs.Document.Substitution

/-!
A walk whose visitor replaces node IDs and untyped data the same way at all times, whatever it
remembers, is a substitution.
-/

namespace MockCluster

variable {σ α β : Type}

/-- The value of an action does not depend on the state it runs in. -/
def Returns (action : StateM σ α) (value : α) : Prop :=
  ∀ state : σ, (action.run state).run.1 = value

namespace Returns

theorem of_pure (value : α) : Returns (pure value : StateM σ α) value := fun _ => rfl

theorem bind {action : StateM σ α} {value : α} {next : α → StateM σ β} {result : β}
    (h : Returns action value) (hnext : Returns (next value) result) :
    Returns (action >>= next) result := by
  intro state
  have hvalue := h state
  change ((next ((action.run state).run.1)).run (action.run state).run.2).run.1 = result
  rw [hvalue]
  exact hnext _

theorem onSome {f : α → StateM σ α} {g : α → α} (h : ∀ a, Returns (f a) (g a))
    (value : Option α) : Returns (MockCluster.onSome f value) (value.map g) := by
  cases value with
  | none => exact of_pure none
  | some value => exact (h value).bind (of_pure _)

theorem list {f : α → StateM σ β} {g : α → β} (h : ∀ a, Returns (f a) (g a)) (items : List α) :
    Returns (items.mapM f) (items.map g) := by
  induction items with
  | nil => exact of_pure []
  | cons first rest ih =>
      rw [List.mapM_cons]
      exact (h first).bind (ih.bind (of_pure _))

theorem foldl {f : β → α → StateM σ β} {g : β → α → β} (h : ∀ b a, Returns (f b a) (g b a))
    (items : List α) (start : β) : Returns (items.foldlM f start) (items.foldl g start) := by
  induction items generalizing start with
  | nil => exact of_pure start
  | cons first rest ih =>
      rw [List.foldlM_cons]
      exact (h start first).bind (ih _)

theorem entries {f : α → StateM σ β} {g : α → β} (h : ∀ a, Returns (f a) (g a))
    (entries : List (String × α)) :
    Returns (OrderedMap.mapEntriesM f entries)
      ⟨entries.map fun entry => (entry.1, g entry.2), by simp [Function.comp_def]⟩ := by
  induction entries with
  | nil => exact of_pure _
  | cons entry rest ih =>
      obtain ⟨key, value⟩ := entry
      exact (h value).bind (ih.bind (of_pure _))

theorem orderedMap {f : α → StateM σ β} {g : α → β} (h : ∀ a, Returns (f a) (g a))
    (map : OrderedMap α) : Returns (map.mapM f) (map.map g) :=
  (entries h map.entries).bind (of_pure _)

end Returns

namespace Visitor

/-- The visitor replaces as the substitution says, and leaves tasks to the walk. -/
structure Follows (visitor : Visitor (StateM σ)) (s : Substitution) : Prop where
  nodeId : ∀ site id, Returns (visitor.nodeId site id) (s.nodeId id)
  task : ∀ task, Returns (visitor.task task) task
  untyped : ∀ members, Returns (visitor.untyped members) (s.untyped members)

namespace Follows

variable {visitor : Visitor (StateM σ)} {s : Substitution} (h : visitor.Follows s)

include h

theorem status (status : TaskStatus) : Returns (visitor.status status) (s.status status) :=
  (h.untyped _).bind (.of_pure _)

theorem ref (site : NodeIdSite) (ref : TaskRef) : Returns (visitor.ref site ref) (s.ref ref) :=
  (Returns.onSome (h.nodeId site) _).bind <| (Returns.onSome h.status _).bind <|
    (h.untyped _).bind (.of_pure _)

theorem nodeGrouping (grouping : Grouping) :
    Returns (visitor.nodeGrouping grouping) (s.nodeGrouping grouping) :=
  .orderedMap (fun refs => .list (h.ref .groupingEntry) refs) grouping

theorem serviceGrouping (grouping : Grouping) :
    Returns (visitor.serviceGrouping grouping) (s.serviceGrouping grouping) :=
  (Returns.foldl (g := fun moved key => moved.move key (s.nodeId key))
    (fun _ key => (h.nodeId .serviceGroupingKey key).bind (.of_pure _)) _ _).bind (h.nodeGrouping _)

theorem node (listing : NodeListing) (node : Node) :
    Returns (visitor.node listing node) (s.node node) :=
  (h.nodeId _ _).bind <| (Returns.onSome h.nodeGrouping _).bind <|
    (h.untyped _).bind (.of_pure _)

theorem portSpec (spec : PortSpec) : Returns (visitor.portSpec spec) (s.portSpec spec) :=
  (h.untyped _).bind (.of_pure _)

theorem endpoint (endpoint : Endpoint) :
    Returns (visitor.endpoint endpoint) (s.endpoint endpoint) := by
  have hspec : ∀ spec : EndpointSpec, Returns (do
      let ports ← spec.ports.mapM visitor.portSpec
      let untyped ← visitor.untyped spec.untyped
      return { spec with ports := ports, untyped := untyped }) (s.endpointSpec spec) := fun spec =>
    (Returns.list h.portSpec _).bind <| (h.untyped _).bind (.of_pure _)
  exact (Returns.list h.portSpec _).bind <| (Returns.onSome hspec _).bind <|
    (h.untyped _).bind (.of_pure _)

theorem service (service : Service) : Returns (visitor.service service) (s.service service) := by
  have hspec : ∀ spec : ServiceSpec, Returns (do
      let untyped ← visitor.untyped spec.untyped
      return { spec with untyped := untyped }) (s.serviceSpec spec) := fun spec =>
    (h.untyped _).bind (.of_pure _)
  exact (Returns.onSome h.serviceGrouping _).bind <| (Returns.onSome hspec _).bind <|
    (Returns.onSome h.endpoint _).bind <| (h.untyped _).bind (.of_pure _)

theorem summary (summary : ServiceSummary) :
    Returns (visitor.summary summary) (s.summary summary) :=
  (Returns.onSome h.serviceGrouping _).bind <| (h.untyped _).bind (.of_pure _)

theorem flatTask (task : Task) : Returns (visitor.flatTask task) (s.task task) :=
  (h.task task).bind <| (Returns.onSome (h.nodeId _) _).bind <|
    (Returns.onSome h.status _).bind <| (h.untyped _).bind (.of_pure _)

theorem stack (stack : Stack) : Returns (visitor.stack stack) (s.stack stack) := by
  have hservice : ∀ service : StackService, Returns (do
      let untyped ← visitor.untyped service.untyped
      return { service with untyped := untyped }) (s.stackService service) := fun service =>
    (h.untyped _).bind (.of_pure _)
  exact (Returns.list hservice _).bind <| (h.untyped _).bind (.of_pure _)

theorem logService (service : LogService) :
    Returns (visitor.logService service) (s.logService service) :=
  (h.untyped _).bind (.of_pure _)

theorem portEntry (entry : PortEntry) :
    Returns (visitor.portEntry entry) (s.portEntry entry) :=
  (h.untyped _).bind (.of_pure _)

theorem walk (doc : Document) : Returns (doc.walk visitor) (s.document doc) :=
  (Returns.list (h.node .primary) _).bind <| (Returns.list (h.node .horizontal) _).bind <|
    (Returns.list (h.node .vertical) _).bind <| (Returns.list h.service _).bind <|
    (Returns.list h.summary _).bind <| (Returns.list h.summary _).bind <|
    (Returns.list (h.ref .unassignedEntry) _).bind <| (Returns.list h.flatTask _).bind <|
    (Returns.list h.stack _).bind <| (Returns.list h.logService _).bind <|
    (Returns.list h.portEntry _).bind <| (h.untyped _).bind <| (h.untyped _).bind <|
    (h.untyped _).bind (.of_pure _)

end Follows

end Visitor

end MockCluster
