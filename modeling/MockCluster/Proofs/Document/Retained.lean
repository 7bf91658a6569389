import MockCluster.Proofs.Document.Substitution
import MockCluster.Proofs.InPlace
import MockCluster.Proofs.Json.NodeIds
import MockCluster.Proofs.Views.Insertion

/-!
What a change of a document may do to the records that are there: replace node IDs, file tasks
anew, rename tasks, enter services in a stack, and add records behind.  Two such changes are one.
-/

namespace MockCluster

namespace Substitution

def idle : Substitution := ⟨id, id⟩

/-- First the second substitution, then the first one. -/
def comp (t s : Substitution) : Substitution := ⟨t.nodeId ∘ s.nodeId, t.untyped ∘ s.untyped⟩

/-- Replaces node IDs, in untyped data too if asked. -/
def ofNodeIds (f : String → String) (untyped : Bool) : Substitution where
  nodeId := f
  untyped members :=
    if untyped then Id.run (Json.visitMembers (fun id => pure (f id)) false members) else members

theorem ofNodeIds_id (untyped : Bool) : ofNodeIds id untyped = idle := by
  have huntyped : (ofNodeIds id untyped).untyped = id := by
    funext members
    cases untyped with
    | false => rfl
    | true => exact Json.visitMembers_self members
  rw [idle, ← huntyped]
  rfl

theorem comp_ofNodeIds (f g : String → String) (untyped : Bool) :
    (ofNodeIds g untyped).comp (ofNodeIds f untyped) = ofNodeIds (g ∘ f) untyped := by
  have huntyped : ((ofNodeIds g untyped).comp (ofNodeIds f untyped)).untyped =
      (ofNodeIds (g ∘ f) untyped).untyped := by
    funext members
    cases untyped with
    | false => rfl
    | true => exact Json.visitMembers_twice f g members
  rw [comp, mk.injEq]
  exact ⟨rfl, huntyped⟩

section Comp

variable (t s : Substitution)

@[simp] theorem nodeId_comp : (t.comp s).nodeId = t.nodeId ∘ s.nodeId := rfl

@[simp] theorem untyped_comp : (t.comp s).untyped = t.untyped ∘ s.untyped := rfl

@[simp] theorem status_comp : (t.comp s).status = t.status ∘ s.status := rfl

@[simp] theorem portSpec_comp : (t.comp s).portSpec = t.portSpec ∘ s.portSpec := rfl

@[simp] theorem endpointSpec_comp : (t.comp s).endpointSpec = t.endpointSpec ∘ s.endpointSpec := by
  funext spec
  simp [endpointSpec]

@[simp] theorem endpoint_comp : (t.comp s).endpoint = t.endpoint ∘ s.endpoint := by
  funext endpoint
  simp [Substitution.endpoint]

@[simp] theorem serviceSpec_comp : (t.comp s).serviceSpec = t.serviceSpec ∘ s.serviceSpec := rfl

@[simp] theorem stackService_comp :
    (t.comp s).stackService = t.stackService ∘ s.stackService := rfl

theorem task_comp : (t.comp s).task = t.task ∘ s.task := by
  funext task
  simp [Substitution.task]

theorem logService_comp : (t.comp s).logService = t.logService ∘ s.logService := rfl

theorem portEntry_comp : (t.comp s).portEntry = t.portEntry ∘ s.portEntry := rfl

end Comp

section Idle

@[simp] theorem nodeId_idle : idle.nodeId = id := rfl

@[simp] theorem untyped_idle : idle.untyped = id := rfl

@[simp] theorem status_idle : idle.status = id := rfl

@[simp] theorem portSpec_idle : idle.portSpec = id := rfl

@[simp] theorem endpointSpec_idle : idle.endpointSpec = id := by
  funext spec
  simp [endpointSpec]

@[simp] theorem endpoint_idle : idle.endpoint = id := by
  funext endpoint
  simp [Substitution.endpoint]

@[simp] theorem serviceSpec_idle : idle.serviceSpec = id := rfl

@[simp] theorem stackService_idle : idle.stackService = id := rfl

theorem task_idle (task : Task) : idle.task task = task := by
  simp [Substitution.task]

theorem stack_idle (stack : Stack) : idle.stack stack = stack := by
  simp [Substitution.stack]

theorem ref_idle : idle.ref = id := by
  funext ref
  simp [Substitution.ref]

@[simp] theorem nodeGrouping_idle : idle.nodeGrouping = id := by
  funext grouping
  exact OrderedMap.map_eq_self fun refs _ => by rw [ref_idle, List.map_id]

@[simp] theorem serviceGrouping_idle : idle.serviceGrouping = id := by
  funext grouping
  rw [serviceGrouping, nodeGrouping_idle, id, rekey]
  induction grouping.keys with
  | nil => rfl
  | cons key rest ih =>
      have hkept : idle.nodeId key = key := rfl
      rwa [List.foldl_cons, Grouping.move, if_pos hkept]

theorem document_idle (doc : Document) : idle.document doc = doc := by
  have hnode : idle.node = id := by
    funext node
    simp [Substitution.node]
  have hservice : idle.service = id := by
    funext service
    simp [Substitution.service]
  have hsummary : idle.summary = id := by
    funext summary
    simp [Substitution.summary]
  have htask : idle.task = id := funext task_idle
  have hstack : idle.stack = id := funext stack_idle
  have hlogService : idle.logService = id := rfl
  have hportEntry : idle.portEntry = id := rfl
  simp [Substitution.document, hnode, hservice, hsummary, htask, hstack, hlogService, hportEntry,
    ref_idle]

end Idle

variable (s : Substitution)

def TaskKept (before after : Task) : Prop := ∃ id, after = { s.task before with id := id }

def NodeKept (before after : Node) : Prop := ∃ tasks, after = { s.node before with tasks := tasks }

def ServiceKept (before after : Service) : Prop :=
  ∃ tasks, after = { s.service before with tasks := tasks }

def SummaryKept (before after : ServiceSummary) : Prop :=
  ∃ tasks, after = { s.summary before with tasks := tasks }

def StackKept (before after : Stack) : Prop :=
  ∃ added, after = { s.stack before with services := (s.stack before).services ++ added }

variable {s} {t : Substitution}

theorem TaskKept.trans {first second third : Task} (h : s.TaskKept first second)
    (h' : t.TaskKept second third) : (t.comp s).TaskKept first third := by
  obtain ⟨_, rfl⟩ := h
  obtain ⟨id, rfl⟩ := h'
  refine ⟨id, ?_⟩
  rw [task_comp]
  rfl

theorem NodeKept.trans {first second third : Node} (h : s.NodeKept first second)
    (h' : t.NodeKept second third) : (t.comp s).NodeKept first third := by
  obtain ⟨_, rfl⟩ := h
  obtain ⟨tasks, rfl⟩ := h'
  exact ⟨tasks, rfl⟩

theorem ServiceKept.trans {first second third : Service} (h : s.ServiceKept first second)
    (h' : t.ServiceKept second third) : (t.comp s).ServiceKept first third := by
  obtain ⟨_, rfl⟩ := h
  obtain ⟨tasks, rfl⟩ := h'
  refine ⟨tasks, ?_⟩
  simp [service]

theorem SummaryKept.trans {first second third : ServiceSummary} (h : s.SummaryKept first second)
    (h' : t.SummaryKept second third) : (t.comp s).SummaryKept first third := by
  obtain ⟨_, rfl⟩ := h
  obtain ⟨tasks, rfl⟩ := h'
  exact ⟨tasks, rfl⟩

theorem StackKept.trans {first second third : Stack} (h : s.StackKept first second)
    (h' : t.StackKept second third) : (t.comp s).StackKept first third := by
  obtain ⟨added, rfl⟩ := h
  obtain ⟨later, rfl⟩ := h'
  refine ⟨added.map t.stackService ++ later, ?_⟩
  simp [stack]

end Substitution

namespace Document

/-- Every record has its successor in the same place, which differs in what the substitution
replaces; in the ID of a task, in the tasks filed under a node or a service, and in what was entered
in a stack. -/
structure Retained (s : Substitution) (before after : Document) : Prop where
  tasks : InPlace s.TaskKept before.tasks after.tasks
  nodes : ∀ listing, InPlace s.NodeKept (before.listing listing) (after.listing listing)
  services : InPlace s.ServiceKept before.services after.services
  horizontal : InPlace s.SummaryKept before.horizontal.services after.horizontal.services
  vertical : InPlace s.SummaryKept before.vertical.services after.vertical.services
  stackRecords : InPlace s.StackKept before.stackRecords after.stackRecords
  logServices : InPlace (fun service service' => service' = s.logService service)
    before.logServices after.logServices
  ports : InPlace (fun entry entry' => entry' = s.portEntry entry) before.ports after.ports
  untyped : after.untyped = s.untyped before.untyped
  horizontalUntyped : after.horizontal.untyped = s.untyped before.horizontal.untyped
  verticalUntyped : after.vertical.untyped = s.untyped before.vertical.untyped

theorem Retained.trans {s t : Substitution} {first second third : Document}
    (h : Retained s first second) (h' : Retained t second third) :
    Retained (t.comp s) first third where
  tasks := h.tasks.trans h'.tasks fun _ _ _ => .trans
  nodes listing := (h.nodes listing).trans (h'.nodes listing) fun _ _ _ => .trans
  services := h.services.trans h'.services fun _ _ _ => .trans
  horizontal := h.horizontal.trans h'.horizontal fun _ _ _ => .trans
  vertical := h.vertical.trans h'.vertical fun _ _ _ => .trans
  stackRecords := h.stackRecords.trans h'.stackRecords fun _ _ _ => .trans
  logServices := h.logServices.trans h'.logServices fun _ _ _ hfirst hsecond => by
    rw [hsecond, hfirst, Substitution.logService_comp, Function.comp_apply]
  ports := h.ports.trans h'.ports fun _ _ _ hfirst hsecond => by
    rw [hsecond, hfirst, Substitution.portEntry_comp, Function.comp_apply]
  untyped := by rw [h'.untyped, h.untyped]; rfl
  horizontalUntyped := by rw [h'.horizontalUntyped, h.horizontalUntyped]; rfl
  verticalUntyped := by rw [h'.verticalUntyped, h.verticalUntyped]; rfl

open Substitution in
theorem Retained.refl (doc : Document) : Retained idle doc doc where
  tasks := .refl (fun task => ⟨task.id, (task_idle task).symm⟩) _
  nodes _ := .refl (fun node => ⟨node.tasks, rfl⟩) _
  services := .refl (fun service => ⟨service.tasks, by simp [Substitution.service]⟩) _
  horizontal := .refl (fun summary => ⟨summary.tasks, rfl⟩) _
  vertical := .refl (fun summary => ⟨summary.tasks, rfl⟩) _
  stackRecords := .refl (fun stack => ⟨[], by rw [stack_idle, List.append_nil]⟩) _
  logServices := .refl (by intro service; rfl) _
  ports := .refl (by intro entry; rfl) _
  untyped := rfl
  horizontalUntyped := rfl
  verticalUntyped := rfl

theorem retained_document (s : Substitution) (doc : Document) :
    Retained s doc (s.document doc) where
  tasks := .of_map (fun task => ⟨task.id, rfl⟩) _
  nodes listing := by
    rw [Substitution.listing_document]
    exact .of_map (fun _ => ⟨_, rfl⟩) _
  services := .of_map (fun _ => ⟨_, rfl⟩) _
  horizontal := .of_map (fun _ => ⟨_, rfl⟩) _
  vertical := .of_map (fun _ => ⟨_, rfl⟩) _
  stackRecords := .of_map (fun stack => ⟨[], by simp⟩) _
  logServices := .of_map (by intro service; rfl) _
  ports := .of_map (by intro entry; rfl) _
  untyped := rfl
  horizontalUntyped := rfl
  verticalUntyped := rfl

section Changes

variable (doc : Document)

theorem retained_mapNodeGroupings (f : Bool → String → Option Grouping → Option Grouping) :
    Retained .idle doc (doc.mapNodeGroupings f) :=
  { Retained.refl doc with
    nodes := by
      intro listing
      cases listing <;> exact .of_map (fun _ => ⟨_, rfl⟩) _ }

theorem retained_mapServiceGroupings (f : Bool → String → Option Grouping → Option Grouping) :
    Retained .idle doc (doc.mapServiceGroupings f) := by
  have hservice (service : Service) (tasks : Option Grouping) :
      Substitution.idle.ServiceKept service { service with tasks := tasks } :=
    ⟨tasks, by simp [Substitution.service]⟩
  exact
    { Retained.refl doc with
      services := .of_map (fun service => hservice service _) _
      horizontal := .of_map (fun _ => ⟨_, rfl⟩) _
      vertical := .of_map (fun _ => ⟨_, rfl⟩) _ }

theorem retained_insertTask (task : Task) : Retained .idle doc (doc.insertTask task) := by
  have hfiled := (retained_mapNodeGroupings doc (fileAt task.nodePlace task.ref)).trans
    (retained_mapServiceGroupings _ (fileAt task.servicePlace task.ref))
  rw [insertTask, fileTask_eq]
  exact { hfiled with tasks := hfiled.tasks.append [task] }

theorem retained_insertTasks (tasks : List Task) :
    Retained .idle doc (tasks.foldl insertTask doc) := by
  induction tasks generalizing doc with
  | nil => exact .refl doc
  | cons task rest ih => exact (retained_insertTask doc task).trans (ih _)

theorem retained_backfill : Retained .idle doc doc.backfill :=
  { Retained.refl doc with tasks := (Retained.refl doc).tasks.append doc.unlistedTasks }

theorem retained_sync : Retained .idle doc doc.sync := by
  have hfiled := ((retained_backfill doc).trans
    (retained_mapNodeGroupings _ (projectNodes doc.sync.tasks).refiled)).trans
      (retained_mapServiceGroupings _ (projectServices doc.sync.tasks).refiled)
  exact { hfiled with }

end Changes

end Document

end MockCluster
