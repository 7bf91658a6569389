import MockCluster.Document.Layout

/-!
One walk over a document that meets every position of a node ID, every task of the flat list and
all untyped data, in a fixed order.

A visitor may replace what it meets, and acts in any monad.  Replacing the key of a service's
grouping moves its bucket, behind the bucket of the new key if there is one.
-/

namespace MockCluster

inductive NodeIdSite where
  | nodeRecord (listing : NodeListing)
  | taskNodeId
  | groupingEntry
  | unassignedEntry
  | serviceGroupingKey
  deriving DecidableEq, Repr

def NodeIdSite.name : NodeIdSite → String
  | .nodeRecord listing => "NodeRecord(" ++ listing.name ++ ")"
  | .taskNodeId => "TaskNodeId"
  | .groupingEntry => "GroupingEntry"
  | .unassignedEntry => "UnassignedEntry"
  | .serviceGroupingKey => "ServiceGroupingKey"

structure Visitor (m : Type → Type) where
  nodeId : NodeIdSite → String → m String
  task : Task → m Task
  untyped : Members → m Members

def Visitor.idle {m : Type → Type} [Monad m] : Visitor m where
  nodeId _ id := pure id
  task := pure
  untyped := pure

/-- Moves the bucket of a key behind that of another. -/
def Grouping.move (grouping : Grouping) (old new : String) : Grouping :=
  if new = old then grouping
  else
    match grouping.find? old with
    | some bucket => Grouping.append (grouping.erase old) new bucket
    | none => grouping

variable {m : Type → Type} [Monad m]

def onSome {α : Type} (f : α → m α) : Option α → m (Option α)
  | none => pure none
  | some value => do
    let value ← f value
    return some value

namespace Visitor

variable (visitor : Visitor m)

def status (status : TaskStatus) : m TaskStatus := do
  let untyped ← visitor.untyped status.untyped
  return { status with untyped := untyped }

def ref (site : NodeIdSite) (ref : TaskRef) : m TaskRef := do
  let nodeId ← onSome (visitor.nodeId site) ref.nodeId
  let status ← onSome visitor.status ref.status
  let untyped ← visitor.untyped ref.untyped
  return { ref with nodeId := nodeId, status := status, untyped := untyped }

def nodeGrouping (grouping : Grouping) : m Grouping :=
  grouping.mapM fun refs => refs.mapM (visitor.ref .groupingEntry)

/-- The keys of a grouping by node, each moving its bucket, then the references. -/
def serviceGrouping (grouping : Grouping) : m Grouping := do
  let moved ← grouping.keys.foldlM (fun moved key => do
    let new ← visitor.nodeId .serviceGroupingKey key
    return moved.move key new) grouping
  visitor.nodeGrouping moved

def node (listing : NodeListing) (node : Node) : m Node := do
  let id ← visitor.nodeId (.nodeRecord listing) node.id
  let tasks ← onSome visitor.nodeGrouping node.tasks
  let untyped ← visitor.untyped node.untyped
  return { node with id := id, tasks := tasks, untyped := untyped }

def portSpec (spec : PortSpec) : m PortSpec := do
  let untyped ← visitor.untyped spec.untyped
  return { spec with untyped := untyped }

/-- All ports come before the untyped data of the endpoint and its specification. -/
def endpoint (endpoint : Endpoint) : m Endpoint := do
  let ports ← endpoint.ports.mapM visitor.portSpec
  let spec ← onSome (fun (spec : EndpointSpec) => do
    let ports ← spec.ports.mapM visitor.portSpec
    let untyped ← visitor.untyped spec.untyped
    return { spec with ports := ports, untyped := untyped }) endpoint.spec
  let untyped ← visitor.untyped endpoint.untyped
  return { endpoint with ports := ports, spec := spec, untyped := untyped }

def service (service : Service) : m Service := do
  let tasks ← onSome visitor.serviceGrouping service.tasks
  let spec ← onSome (fun (spec : ServiceSpec) => do
    let untyped ← visitor.untyped spec.untyped
    return { spec with untyped := untyped }) service.spec
  let endpoint ← onSome visitor.endpoint service.endpoint
  let untyped ← visitor.untyped service.untyped
  return { service with tasks := tasks, spec := spec, endpoint := endpoint, untyped := untyped }

def summary (summary : ServiceSummary) : m ServiceSummary := do
  let tasks ← onSome visitor.serviceGrouping summary.tasks
  let untyped ← visitor.untyped summary.untyped
  return { summary with tasks := tasks, untyped := untyped }

def flatTask (task : Task) : m Task := do
  let task ← visitor.task task
  let nodeId ← onSome (visitor.nodeId .taskNodeId) task.nodeId
  let status ← onSome visitor.status task.status
  let untyped ← visitor.untyped task.untyped
  return { task with nodeId := nodeId, status := status, untyped := untyped }

def stack (stack : Stack) : m Stack := do
  let services ← stack.services.mapM fun service => do
    let untyped ← visitor.untyped service.untyped
    return { service with untyped := untyped }
  let untyped ← visitor.untyped stack.untyped
  return { stack with services := services, untyped := untyped }

def logService (service : LogService) : m LogService := do
  let untyped ← visitor.untyped service.untyped
  return { service with untyped := untyped }

def portEntry (entry : PortEntry) : m PortEntry := do
  let untyped ← visitor.untyped entry.untyped
  return { entry with untyped := untyped }

end Visitor

/-- The node listings, the services and their summaries, references without a node, the flat tasks,
and then the untyped data of everything else. -/
def Document.walk (visitor : Visitor m) (doc : Document) : m Document := do
  let nodes ← doc.nodes.mapM (visitor.node .primary)
  let horizontalNodes ← doc.horizontal.nodes.mapM (visitor.node .horizontal)
  let verticalNodes ← doc.vertical.nodes.mapM (visitor.node .vertical)
  let services ← doc.services.mapM visitor.service
  let horizontalServices ← doc.horizontal.services.mapM visitor.summary
  let verticalServices ← doc.vertical.services.mapM visitor.summary
  let unassigned ← doc.horizontal.unassigned.mapM (visitor.ref .unassignedEntry)
  let tasks ← doc.tasks.mapM visitor.flatTask
  let stackRecords ← doc.stackRecords.mapM visitor.stack
  let logServices ← doc.logServices.mapM visitor.logService
  let ports ← doc.ports.mapM visitor.portEntry
  let horizontalUntyped ← visitor.untyped doc.horizontal.untyped
  let verticalUntyped ← visitor.untyped doc.vertical.untyped
  let untyped ← visitor.untyped doc.untyped
  return {
    nodes := nodes
    services := services
    tasks := tasks
    stackRecords := stackRecords
    horizontal := ⟨horizontalServices, horizontalNodes, unassigned, horizontalUntyped⟩
    vertical := ⟨verticalServices, verticalNodes, verticalUntyped⟩
    logServices := logServices
    timeline := doc.timeline
    ports := ports
    untyped := untyped }

end MockCluster
