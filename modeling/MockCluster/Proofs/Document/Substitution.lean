import MockCluster.Document.Walk
import MockCluster.Index
import MockCluster.Proofs.Views.Holders
import MockCluster.Proofs.Views.Projection

/-!
Replacing node IDs and untyped data all at once, and what stays as it is: service IDs, task IDs, the
keys under which nodes group their tasks, and which references there are.
-/

namespace MockCluster

/-- What becomes of a node ID, and of untyped data. -/
structure Substitution where
  nodeId : String → String
  untyped : Members → Members

namespace Substitution

variable (s : Substitution)

def status (status : TaskStatus) : TaskStatus :=
  { status with untyped := s.untyped status.untyped }

def ref (ref : TaskRef) : TaskRef :=
  { ref with
    nodeId := ref.nodeId.map s.nodeId
    status := ref.status.map s.status
    untyped := s.untyped ref.untyped }

def nodeGrouping (grouping : Grouping) : Grouping := grouping.map (List.map s.ref)

def rekey (grouping : Grouping) : Grouping :=
  grouping.keys.foldl (fun moved key => moved.move key (s.nodeId key)) grouping

def serviceGrouping (grouping : Grouping) : Grouping := s.nodeGrouping (s.rekey grouping)

def node (node : Node) : Node :=
  { node with
    id := s.nodeId node.id
    tasks := node.tasks.map s.nodeGrouping
    untyped := s.untyped node.untyped }

def portSpec (spec : PortSpec) : PortSpec := { spec with untyped := s.untyped spec.untyped }

def endpointSpec (spec : EndpointSpec) : EndpointSpec :=
  { spec with ports := spec.ports.map s.portSpec, untyped := s.untyped spec.untyped }

def endpoint (endpoint : Endpoint) : Endpoint :=
  { endpoint with
    ports := endpoint.ports.map s.portSpec
    spec := endpoint.spec.map s.endpointSpec
    untyped := s.untyped endpoint.untyped }

def serviceSpec (spec : ServiceSpec) : ServiceSpec :=
  { spec with untyped := s.untyped spec.untyped }

def service (service : Service) : Service :=
  { service with
    tasks := service.tasks.map s.serviceGrouping
    spec := service.spec.map s.serviceSpec
    endpoint := service.endpoint.map s.endpoint
    untyped := s.untyped service.untyped }

def summary (summary : ServiceSummary) : ServiceSummary :=
  { summary with
    tasks := summary.tasks.map s.serviceGrouping
    untyped := s.untyped summary.untyped }

def task (task : Task) : Task :=
  { task with
    nodeId := task.nodeId.map s.nodeId
    status := task.status.map s.status
    untyped := s.untyped task.untyped }

def stackService (service : StackService) : StackService :=
  { service with untyped := s.untyped service.untyped }

def stack (stack : Stack) : Stack :=
  { stack with
    services := stack.services.map s.stackService
    untyped := s.untyped stack.untyped }

def logService (service : LogService) : LogService :=
  { service with untyped := s.untyped service.untyped }

def portEntry (entry : PortEntry) : PortEntry := { entry with untyped := s.untyped entry.untyped }

def document (doc : Document) : Document where
  nodes := doc.nodes.map s.node
  services := doc.services.map s.service
  tasks := doc.tasks.map s.task
  stackRecords := doc.stackRecords.map s.stack
  horizontal :=
    { services := doc.horizontal.services.map s.summary
      nodes := doc.horizontal.nodes.map s.node
      unassigned := doc.horizontal.unassigned.map s.ref
      untyped := s.untyped doc.horizontal.untyped }
  vertical :=
    { services := doc.vertical.services.map s.summary
      nodes := doc.vertical.nodes.map s.node
      untyped := s.untyped doc.vertical.untyped }
  logServices := doc.logServices.map s.logService
  timeline := doc.timeline
  ports := doc.ports.map s.portEntry
  untyped := s.untyped doc.untyped

end Substitution

namespace Grouping

theorem mem_refs_erase_or {grouping : Grouping} {key : String} {bucket : List TaskRef}
    (hfind : grouping.find? key = some bucket) {ref : TaskRef} :
    ref ∈ Grouping.refs (grouping.erase key) ∨ ref ∈ bucket ↔ ref ∈ grouping.refs := by
  simp only [mem_refs_iff, OrderedMap.find?_erase]
  constructor
  · intro hgiven
    rcases hgiven with ⟨other, held, hheld, hmem⟩ | hmem
    · split at hheld
      · cases hheld
      · exact ⟨other, held, hheld, hmem⟩
    · exact ⟨key, bucket, hfind, hmem⟩
  · intro hgiven
    obtain ⟨other, held, hheld, hmem⟩ := hgiven
    by_cases heq : other = key
    · subst heq
      rw [hfind] at hheld
      cases hheld
      exact .inr hmem
    · exact .inl ⟨other, held, by rw [if_neg heq, hheld], hmem⟩

theorem mem_refs_move {grouping : Grouping} {old new : String} {ref : TaskRef} :
    ref ∈ (grouping.move old new).refs ↔ ref ∈ grouping.refs := by
  unfold move
  split
  · rfl
  · cases hfind : grouping.find? old with
    | none => rfl
    | some bucket => rw [mem_refs_append, mem_refs_erase_or hfind]

end Grouping

namespace Substitution

variable (s : Substitution)

@[simp] theorem id_ref (ref : TaskRef) : (s.ref ref).id = ref.id := rfl

@[simp] theorem id_node (node : Node) : (s.node node).id = s.nodeId node.id := rfl

@[simp] theorem id_service (service : Service) : (s.service service).id = service.id := rfl

@[simp] theorem id_summary (summary : ServiceSummary) : (s.summary summary).id = summary.id := rfl

@[simp] theorem id_logService (service : LogService) : (s.logService service).id = service.id := rfl

@[simp] theorem id_stackService (service : StackService) :
    (s.stackService service).id = service.id := rfl

@[simp] theorem id_task (task : Task) : (s.task task).id = task.id := rfl

@[simp] theorem looksLikeTask_task (task : Task) :
    (s.task task).looksLikeTask = task.looksLikeTask := by
  unfold Task.looksLikeTask Substitution.task
  cases task.nodeId <;> rfl

theorem refs_nodeGrouping (grouping : Grouping) :
    (s.nodeGrouping grouping).refs = grouping.refs.map s.ref :=
  Grouping.refs_map_map s.ref grouping

theorem mem_refs_rekey {grouping : Grouping} {ref : TaskRef} :
    ref ∈ (s.rekey grouping).refs ↔ ref ∈ grouping.refs := by
  have hfold : ∀ (keys : List String) (moved : Grouping),
      ref ∈ (keys.foldl (fun moved key => moved.move key (s.nodeId key)) moved).refs ↔
        ref ∈ moved.refs := by
    intro keys
    induction keys with
    | nil => intro moved; rfl
    | cons key rest ih =>
        intro moved
        rw [List.foldl_cons, ih, Grouping.mem_refs_move]
  exact hfold _ _

theorem mem_refs_serviceGrouping {grouping : Grouping} {ref : TaskRef} :
    ref ∈ (s.serviceGrouping grouping).refs ↔ ∃ former ∈ grouping.refs, s.ref former = ref := by
  simp only [serviceGrouping, refs_nodeGrouping, List.mem_map, mem_refs_rekey]

@[simp] theorem keys_node (node : Node) :
    ((s.node node).tasks.getD ∅).keys = (node.tasks.getD ∅).keys := by
  simp only [Substitution.node]
  cases node.tasks with
  | none => rfl
  | some grouping => exact OrderedMap.keys_map _ grouping

variable (doc : Document)

@[simp] theorem listing_document (listing : NodeListing) :
    (s.document doc).listing listing = (doc.listing listing).map s.node := by
  cases listing <;> rfl

@[simp] theorem allNodes_document : (s.document doc).allNodes = doc.allNodes.map s.node := by
  simp [Document.allNodes, document]

@[simp] theorem nodeIds_document : (s.document doc).nodeIds = doc.nodeIds.map s.nodeId := by
  simp [Document.nodeIds, Function.comp_def]

@[simp] theorem serviceIds_document : (s.document doc).serviceIds = doc.serviceIds := by
  simp [Document.serviceIds, document, Function.comp_def]

@[simp] theorem taskIds_document : (s.document doc).taskIds = doc.taskIds := by
  simp [Document.taskIds, document, Function.comp_def]

@[simp] theorem listedServiceIds_document :
    (s.document doc).listedServiceIds = doc.listedServiceIds := by
  simp [Document.listedServiceIds, Document.serviceIds, Document.summaries, document,
    Function.comp_def, List.flatMap_map, stack]

@[simp] theorem usesHorizontalRoster_document :
    (s.document doc).usesHorizontalRoster = doc.usesHorizontalRoster := by
  simp [Document.usesHorizontalRoster, document]

def nodeHolder (holder : Holder) : Holder :=
  { holder with
    owner := s.nodeId holder.owner
    held := holder.held.map s.nodeGrouping }

def serviceHolder (holder : Holder) : Holder :=
  { holder with held := holder.held.map s.serviceGrouping }

theorem nodeHolders_document :
    (s.document doc).nodeHolders = doc.nodeHolders.map s.nodeHolder := by
  rw [Document.nodeHolders, usesHorizontalRoster_document]
  simp only [Document.nodeHolders, document, List.map_append, List.map_map]
  rfl

theorem serviceHolders_document :
    (s.document doc).serviceHolders = doc.serviceHolders.map s.serviceHolder := by
  simp only [Document.serviceHolders, document, List.map_append, List.map_map]
  rfl

theorem exists_of_mem_filedRefs_document {ref : TaskRef}
    (hmem : ref ∈ (s.document doc).filedRefs) : ∃ former ∈ doc.filedRefs, former.id = ref.id := by
  have hheld : ∀ {f : Grouping → Grouping} {held : Option Grouping},
      (∀ grouping, ref ∈ (f grouping).refs → ∃ former ∈ grouping.refs, s.ref former = ref) →
        ref ∈ ((held.map f).getD ∅).refs →
          ∃ former ∈ (held.getD ∅).refs, former.id = ref.id := by
    intro f held hf hmem
    cases held with
    | none => cases hmem
    | some grouping =>
        obtain ⟨former, hformer, rfl⟩ := hf grouping hmem
        exact ⟨former, hformer, rfl⟩
  simp only [Document.filedRefs, nodeHolders_document, serviceHolders_document, List.mem_append,
    List.mem_flatMap, List.mem_map, exists_exists_and_eq_and] at hmem ⊢
  rcases hmem with (⟨holder, hholder, hmem⟩ | hmem) | ⟨holder, hholder, hmem⟩
  · obtain ⟨former, hformer, hid⟩ :=
      hheld (fun grouping h => List.mem_map.1 (s.refs_nodeGrouping grouping ▸ h)) hmem
    exact ⟨former, .inl (.inl ⟨holder, hholder, hformer⟩), hid⟩
  · obtain ⟨former, hformer, rfl⟩ := List.mem_map.1 hmem
    exact ⟨former, .inl (.inr hformer), rfl⟩
  · obtain ⟨former, hformer, hid⟩ := hheld (fun _ h => s.mem_refs_serviceGrouping.1 h) hmem
    exact ⟨former, .inr ⟨holder, hholder, hformer⟩, hid⟩

end Substitution

end MockCluster
