import MockCluster.Proofs.Lists
import MockCluster.Proofs.Repair.Replacement

/-!
The service records after a repair: whatever a listing names has one.

A record is made for each service that only listings know, in the order in which they first name
it.  Its name and its stack are looked for apart from each other, each in the first entry that has
one, whatever listing that is.
-/

namespace MockCluster

/-- What one entry of a listing says of a service. -/
structure Mention where
  name : Option String
  stack : Option String

namespace Service

variable (id : String) (name stack : Option String)

theorem stackName_stub {given : String} (h : given ≠ "") :
    (stub id name (some given)).stackName = some given := by
  simp [stackName, stub, h]

/-- A stub says nothing of nodes and has no untyped data. -/
theorem substitution_stub {s : Substitution} (h : s.untyped [] = []) :
    s.service (stub id name stack) = stub id name stack := by
  simp [stub, Substitution.service, Substitution.serviceSpec, h]

end Service

namespace Document

/-- The entries of a service on the dashboards, then in the log viewer, which knows no stacks, then
in the stacks. -/
def mentions (doc : Document) (id : String) : List Mention :=
  (doc.summaries.filter (·.id = id)).map (fun summary => ⟨summary.name, summary.stack⟩) ++
    (doc.logServices.filter (·.id = id)).map (fun service => ⟨service.name, none⟩) ++
    doc.stackRecords.flatMap fun stack =>
      (stack.services.filter (·.id = id)).map fun service => ⟨service.serviceName, some stack.name⟩

/-- A record made for a service from what the listings say of it. -/
structure StandsIn (doc : Document) (service : String) (stub : Service) : Prop where
  id : stub.id = service
  name : stub.name = (doc.mentions service).findSome? Mention.name
  stack : stub.stack = (doc.mentions service).findSome? Mention.stack
  stackName : ∀ stack ∈ stub.stack, stack ≠ "" → stub.stackName = some stack

variable (doc : Document) (id : String)

theorem listedName_eq : doc.listedName id = (doc.mentions id).findSome? Mention.name := by
  simp only [listedName, mentions, List.findSome?_append, List.findSome?_map,
    findSome?_flatMap, Option.orElse_eq_orElse, Option.orElse_eq_or, Option.or_assoc]
  rfl

theorem findSome?_stack_filter (stack : Stack) :
    (stack.services.filter (·.id = id)).findSome? (fun _ => some stack.name) =
      if stack.services.any (·.id = id) then some stack.name else none := by
  induction stack.services with
  | nil => rfl
  | cons first rest ih => by_cases heq : first.id = id <;> simp [heq, ih]

theorem listedStack_eq : doc.listedStack id = (doc.mentions id).findSome? Mention.stack := by
  have hlog : (doc.logServices.filter (·.id = id)).findSome?
      (Mention.stack ∘ fun service => ⟨service.name, none⟩) = none :=
    List.findSome?_eq_none_iff.2 fun _ _ => rfl
  simp only [listedStack, mentions, List.findSome?_append, List.findSome?_map,
    findSome?_flatMap, hlog, Option.or_none, ← findSome?_stack_filter,
    Option.orElse_eq_orElse, Option.orElse_eq_or]
  rfl

theorem standsIn_stubOf : doc.StandsIn id (doc.stubOf id) where
  id := rfl
  name := doc.listedName_eq id
  stack := doc.listedStack_eq id
  stackName := by
    intro stack hstack hne
    have hlisted : doc.listedStack id = some stack := hstack
    rw [stubOf, hlisted, Service.stackName_stub id _ hne]

theorem unrecorded_eq :
    doc.unrecorded =
      (doc.listedServiceIds.filter (· ≠ "")).eraseDups.filter (· ∉ doc.serviceIds) := by
  have hknown : (Store.of "" doc).index.knownIds .service =
    (doc.listedServiceIds.filter (· ≠ "")).eraseDups := (Index.describes_of doc).knownServices
  rw [unrecorded, Store.unrecordedServices, hknown]
  apply List.filter_congr
  intro id hmem
  have hne : id ≠ "" := by
    simpa using (List.mem_filter.1 (List.mem_eraseDups.1 hmem)).2
  rw [Bool.eq_iff_iff, Bool.not_eq_true', ← Bool.not_eq_true, Store.contains_service_of,
    decide_eq_true_iff, and_iff_left hne]

theorem services_recorded (settings : RepairSettings) :
    (doc.recorded settings).services =
      doc.services ++ (if settings.backfillServiceStubs then doc.unrecorded else []).map
        doc.stubOf := by
  unfold recorded
  split
  · rfl
  · simp

/-- The walk does not touch the stubs. -/
theorem services_repaired (settings : RepairSettings) :
    ∃ kept : List Service, kept.map Service.id = doc.serviceIds ∧
      (doc.repaired settings).services =
        kept ++ (if settings.backfillServiceStubs then doc.unrecorded else []).map doc.stubOf := by
  let before := doc.backfill.recorded settings
  let s := Substitution.ofNodeIds (Renames.target before.renames) settings.renamesInUntyped
  have hempty : s.untyped [] = [] := by
    rw [Substitution.untyped_ofNodeIds]
    exact ite_self _
  have hstub : s.service ∘ doc.stubOf = doc.stubOf :=
    funext fun _ => Service.substitution_stub _ _ _ hempty
  refine ⟨doc.services.map s.service, ?_, ?_⟩
  · rw [List.map_map]
    rfl
  · rw [repaired, renamed_eq]
    change before.services.map s.service = _
    rw [services_recorded, List.map_append, List.map_map]
    exact congrArg (_ ++ List.map · _) hstub

end Document

open Document

/-- A repair that may add stubs gives every service in a listing a record: the records that were
there stay first and in order, and behind them stands one stub for each of the others.  Without the
permission no record is added. -/
theorem stubs_complete_services (settings : RepairSettings) (source : String) (doc : Document) :
    let outcome := (Store.of source doc).repair settings
    let after := outcome.1.doc
    let missing := (doc.listedServiceIds.filter (· ≠ "")).eraseDups.filter (· ∉ doc.serviceIds)
    let added := if settings.backfillServiceStubs then missing else []
    missing.Nodup ∧
      (∀ id, id ∈ missing ↔ id ∈ doc.listedServiceIds ∧ id ≠ "" ∧ id ∉ doc.serviceIds) ∧
      outcome.2.stubs = added ∧
      after.serviceIds = doc.serviceIds ++ added ∧
      List.Forall₂ doc.StandsIn added (after.services.drop doc.services.length) ∧
      (settings.backfillServiceStubs = true →
        ∀ id ∈ after.listedServiceIds, id ≠ "" → ∃ service ∈ after.services, service.id = id) := by
  intro outcome after missing added
  have hafter : after = doc.repaired settings :=
    congrArg Store.doc (Store.fst_repair_of source doc settings)
  have hmissing : missing = doc.unrecorded := doc.unrecorded_eq.symm
  have hadded : added = if settings.backfillServiceStubs then doc.unrecorded else [] := by
    rw [← hmissing]
  obtain ⟨kept, hkept, hservices⟩ := doc.services_repaired settings
  have hlength : kept.length = doc.services.length := by
    simpa [serviceIds] using congrArg List.length hkept
  rw [← hadded, ← hafter] at hservices
  refine ⟨(nodup_eraseDups _).filter _, ?_, ?_, ?_, ?_, ?_⟩
  · intro id
    rw [hmissing, mem_unrecorded]
  · rw [hadded]
    exact Store.stubs_repair_of source doc settings
  · rw [serviceIds, hservices, List.map_append, hkept, List.map_map]
    exact congrArg (_ ++ ·) (List.map_id added)
  · rw [hservices, List.drop_left' hlength, List.forall₂_map_right_iff, List.forall₂_same]
    exact fun id _ => doc.standsIn_stubOf id
  · intro hstubs id hlisted hne
    have hrecorded : after.unrecorded = [] := hafter ▸ (settled_repaired settings doc).recorded hstubs
    exact List.mem_map.1 (unrecorded_eq_nil_iff.1 hrecorded id hlisted hne)

end MockCluster
