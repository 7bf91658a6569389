import MockCluster.Proofs.Document.Fits
import MockCluster.Proofs.Json.NodeIds
import MockCluster.Proofs.Repair.Duplicates
import MockCluster.Proofs.Repair.Settled
import MockCluster.Proofs.Views.Fits

/-!
Repairs keep a document fit to be stored: replacing node IDs changes strings only, stubs have no
untyped data, and tasks that are renamed keep everything else.
-/

namespace MockCluster

open Json (FreeMembers freeMembers_nil)

namespace Json

variable (f : String → String)

mutual

theorem fits_visitNodeIds (inNodes : Bool) : ∀ {depth : Nat} (value : Json), Fits depth value →
    Fits depth (Id.run (visitNodeIds (fun id => pure (f id)) inNodes value))
  | _, .object members, h =>
      ⟨h.1, (keys_visitMembers f false members).symm ▸ h.2.1,
        fits_visitMembers false members h.2.2⟩
  | _, .array items, h => ⟨h.1, fits_visitItems inNodes items h.2⟩
  | _, .null, h | _, .bool _, h | _, .number _, h | _, .string _, h => h

theorem fits_visitItems (inNodes : Bool) : ∀ {depth : Nat} (items : List Json),
    FitsItems depth items →
      FitsItems depth (Id.run (visitItems (fun id => pure (f id)) inNodes items))
  | _, [], h => h
  | _, .object members :: rest, h =>
      ⟨⟨h.1.1, (keys_visitMembers f inNodes members).symm ▸ h.1.2.1,
        fits_visitMembers inNodes members h.1.2.2⟩, fits_visitItems inNodes rest h.2⟩
  | _, .array items :: rest, h =>
      ⟨fits_visitNodeIds false (.array items) h.1, fits_visitItems inNodes rest h.2⟩
  | _, .null :: rest, h | _, .bool _ :: rest, h | _, .number _ :: rest, h
  | _, .string _ :: rest, h => ⟨h.1, fits_visitItems inNodes rest h.2⟩

theorem fits_visitMembers (isNode : Bool) : ∀ {depth : Nat} (members : Members),
    FitsMembers depth members →
      FitsMembers depth (Id.run (visitMembers (fun id => pure (f id)) isNode members))
  | _, [], h => h
  | depth, (_, .string _) :: rest, h => by
      have hrest := fits_visitMembers isNode rest h.2
      rw [visitMembers]
      split <;> exact ⟨trivial, hrest⟩
  | _, (key, .object members) :: rest, h =>
      ⟨fits_visitNodeIds (key = "Nodes") (.object members) h.1, fits_visitMembers isNode rest h.2⟩
  | _, (key, .array items) :: rest, h =>
      ⟨fits_visitNodeIds (key = "Nodes") (.array items) h.1, fits_visitMembers isNode rest h.2⟩
  | _, (_, .null) :: rest, h | _, (_, .bool _) :: rest, h | _, (_, .number _) :: rest, h =>
      ⟨h.1, fits_visitMembers isNode rest h.2⟩

end

theorem FreeMembers.visitMembers {depth : Nat} {reserved : List String} {members : Members}
    (h : FreeMembers depth reserved members) :
    FreeMembers depth reserved
      (Id.run (Json.visitMembers (fun id => pure (f id)) false members)) := by
  have hkeys := keys_visitMembers f false members
  refine ⟨hkeys.symm ▸ h.nodup, ?_, ?_⟩
  · have hfree : ∀ key ∈ members.map Prod.fst, key ∉ reserved := List.forall_mem_map.2 h.free
    rw [← hkeys] at hfree
    exact fun member hmem => hfree member.1 (List.mem_map_of_mem hmem)
  · exact fitsMembers_iff.1 (fits_visitMembers f false members (fitsMembers_iff.2 h.fits))

end Json

theorem Service.fits_stackLabels {depth : Nat} (stack : Option String) :
    FreeMembers depth [] (Service.stackLabels stack) := by
  cases stack with
  | none => exact freeMembers_nil
  | some stack => exact ⟨by simp [stackLabels], by simp, by simp [stackLabels, Json.Fits]⟩

namespace Substitution

/-- Untyped data stays as free and as flat as it was. -/
def KeepsFree (s : Substitution) : Prop :=
  ∀ {depth : Nat} {reserved : List String} {members : Members},
    FreeMembers depth reserved members → FreeMembers depth reserved (s.untyped members)

variable {s : Substitution} {depth : Nat} (hs : s.KeepsFree)

theorem forall_mem_option_map {α : Type} {P Q : α → Prop} {f : α → α} (hf : ∀ a, P a → Q (f a))
    {value? : Option α} (h : ∀ value ∈ value?, P value) : ∀ value ∈ value?.map f, Q value := by
  intro value hmem
  obtain ⟨former, hformer, rfl⟩ := Option.mem_map.1 hmem
  exact hf former (h former hformer)

theorem forall_mem_list_map {α : Type} {P Q : α → Prop} {f : α → α} (hf : ∀ a, P a → Q (f a))
    {values : List α} (h : ∀ value ∈ values, P value) : ∀ value ∈ values.map f, Q value :=
  List.forall_mem_map.2 fun value hmem => hf value (h value hmem)

include hs

theorem fits_status {status : TaskStatus} (h : status.Fits depth) : (s.status status).Fits depth :=
  ⟨hs h.untyped⟩

theorem fits_ref {ref : TaskRef} (h : ref.Fits depth) : (s.ref ref).Fits depth where
  status := forall_mem_option_map (fun _ => fits_status hs) h.status
  untyped := hs h.untyped

theorem fits_nodeGrouping {grouping : Grouping} (h : grouping.Fits depth) :
    (s.nodeGrouping grouping).Fits depth := by
  intro ref hmem
  rw [refs_nodeGrouping, List.mem_map] at hmem
  obtain ⟨former, hformer, rfl⟩ := hmem
  exact fits_ref hs (h former hformer)

theorem fits_serviceGrouping {grouping : Grouping} (h : grouping.Fits depth) :
    (s.serviceGrouping grouping).Fits depth := by
  intro ref hmem
  obtain ⟨former, hformer, rfl⟩ := s.mem_refs_serviceGrouping.1 hmem
  exact fits_ref hs (h former hformer)

theorem fits_node {node : Node} (h : node.Fits depth) : (s.node node).Fits depth where
  tasks := forall_mem_option_map (fun _ => fits_nodeGrouping hs) h.tasks
  untyped := hs h.untyped

theorem fits_portSpec {spec : PortSpec} (h : spec.Fits depth) : (s.portSpec spec).Fits depth :=
  { h with untyped := hs h.untyped }

theorem fits_endpointSpec {spec : EndpointSpec} (h : spec.Fits depth) :
    (s.endpointSpec spec).Fits depth where
  ports := forall_mem_list_map (fun _ => fits_portSpec hs) h.ports
  untyped := hs h.untyped

theorem fits_endpoint {endpoint : Endpoint} (h : endpoint.Fits depth) :
    (s.endpoint endpoint).Fits depth where
  ports := forall_mem_list_map (fun _ => fits_portSpec hs) h.ports
  spec := forall_mem_option_map (fun _ => fits_endpointSpec hs) h.spec
  untyped := hs h.untyped

theorem fits_serviceSpec {spec : ServiceSpec} (h : spec.Fits depth) :
    (s.serviceSpec spec).Fits depth :=
  { h with untyped := hs h.untyped }

theorem fits_service {service : Service} (h : service.Fits depth) :
    (s.service service).Fits depth where
  spec := forall_mem_option_map (fun _ => fits_serviceSpec hs) h.spec
  endpoint := forall_mem_option_map (fun _ => fits_endpoint hs) h.endpoint
  tasks := forall_mem_option_map (fun _ => fits_serviceGrouping hs) h.tasks
  untyped := hs h.untyped

theorem fits_summary {summary : ServiceSummary} (h : summary.Fits depth) :
    (s.summary summary).Fits depth where
  tasks := forall_mem_option_map (fun _ => fits_serviceGrouping hs) h.tasks
  untyped := hs h.untyped

theorem fits_task {task : Task} (h : task.Fits depth) : (s.task task).Fits depth where
  slot := h.slot
  status := forall_mem_option_map (fun _ => fits_status hs) h.status
  untyped := hs h.untyped

theorem fits_stack {stack : Stack} (h : stack.Fits depth) : (s.stack stack).Fits depth where
  services := forall_mem_list_map
    (fun _ (h : StackService.Fits (depth + 2) _) => StackService.Fits.mk (hs h.untyped)) h.services
  untyped := hs h.untyped

theorem fits_document {doc : Document} (h : doc.Fits) : (s.document doc).Fits where
  nodes := forall_mem_list_map (fun _ => fits_node hs) h.nodes
  services := forall_mem_list_map (fun _ => fits_service hs) h.services
  tasks := forall_mem_list_map (fun _ => fits_task hs) h.tasks
  stackRecords := forall_mem_list_map (fun _ => fits_stack hs) h.stackRecords
  horizontal :=
    { services := forall_mem_list_map (fun _ => fits_summary hs) h.horizontal.services
      nodes := forall_mem_list_map (fun _ => fits_node hs) h.horizontal.nodes
      unassigned := forall_mem_list_map (fun _ => fits_ref hs) h.horizontal.unassigned
      untyped := hs h.horizontal.untyped }
  vertical :=
    { services := forall_mem_list_map (fun _ => fits_summary hs) h.vertical.services
      nodes := forall_mem_list_map (fun _ => fits_node hs) h.vertical.nodes
      untyped := hs h.vertical.untyped }
  logServices := forall_mem_list_map
    (fun _ (h : LogService.Fits 2 _) => LogService.Fits.mk (hs h.untyped)) h.logServices
  timeline := h.timeline
  ports := forall_mem_list_map
    (fun _ (h : PortEntry.Fits 2 _) => { h with untyped := hs h.untyped }) h.ports
  untyped := hs h.untyped

end Substitution

theorem Renames.keepsFree_substitution (renames : List Rename) (untyped : Bool) :
    (substitution renames untyped).KeepsFree := by
  intro depth reserved members h
  cases untyped with
  | false => exact h
  | true => exact Json.FreeMembers.visitMembers _ h

theorem Service.fits_stub {depth : Nat} (id : String) (name stack : Option String) :
    (Service.stub id name stack).Fits depth where
  spec := by
    intro spec hspec
    cases hspec
    exact ⟨fits_stackLabels stack, freeMembers_nil⟩
  endpoint _ hendpoint := by cases hendpoint
  tasks _ htasks := by cases htasks
  untyped := freeMembers_nil

namespace Document.Fits

variable {doc : Document}

theorem withStubs (h : doc.Fits) : doc.withStubs.Fits := by
  have hstubs : ∀ service ∈ doc.services ++ doc.unrecorded.map doc.stubOf, service.Fits 2 :=
    List.forall_mem_append.2
      ⟨h.services, List.forall_mem_map.2 fun _ _ => Service.fits_stub _ _ _⟩
  exact { h with services := hstubs }

theorem repaired (h : doc.Fits) (settings : RepairSettings) : (doc.repaired settings).Fits := by
  have hrecorded : (doc.backfill.recorded settings).Fits := by
    unfold recorded
    split
    · exact h.backfill.withStubs
    · exact h.backfill
  rw [Document.repaired, renamed]
  split
  · exact hrecorded
  · exact Substitution.fits_document (Renames.keepsFree_substitution _ _) hrecorded

theorem deduped (h : doc.Fits) : doc.deduped.Fits := by
  refine h.withTasks fun task hmem => ?_
  obtain ⟨former, hformer, id, rfl⟩ := Duplicates.origin_of_mem_resolve hmem
  exact { h.tasks former hformer with }

end Document.Fits

end MockCluster
