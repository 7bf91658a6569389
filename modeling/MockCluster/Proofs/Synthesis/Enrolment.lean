import Mathlib.Data.List.GetD
import Mathlib.Data.List.TakeWhile
import MockCluster.Proofs.Synthesis.Services

/-!
Where created services are entered: once in every list that lacks them, and nothing that was there
before is touched.
-/

namespace MockCluster

/-- The lists that name services beside the records of services.  Of the stacks with a name the
first one counts. -/
inductive ServiceRoll where
  | ports
  | horizontal
  | vertical
  | logs
  | stack (name : String)

namespace Synthetic

/-- A list of IDs once the created ones that it lacks are entered. -/
def enrolled (created ids : List String) : List String := ids ++ created.filter (· ∉ ids)

theorem enrolled_nil (ids : List String) : enrolled [] ids = ids := List.append_nil ids

theorem enrolled_singleton (id : String) (ids : List String) :
    enrolled [id] ids = if id ∈ ids then ids else ids ++ [id] := by
  by_cases hmem : id ∈ ids <;> simp [enrolled, hmem]

/-- Different IDs can be entered one after another. -/
theorem enrolled_cons {id : String} {rest : List String} (hnew : id ∉ rest) (ids : List String) :
    enrolled (id :: rest) ids = enrolled rest (enrolled [id] ids) := by
  rw [enrolled_singleton]
  by_cases hmem : id ∈ ids
  · simp [enrolled, hmem]
  · have hrest : rest.filter (· ∉ ids ++ [id]) = rest.filter (· ∉ ids) := by
      apply List.filter_congr
      intro other hother
      have hne : other ≠ id := fun heq => hnew (heq ▸ hother)
      simp [hne]
    rw [if_neg hmem, enrolled, enrolled, hrest, List.filter_cons_of_pos (by simpa using hmem),
      List.append_cons]

theorem count_enrolled {created ids : List String} (hnodup : created.Nodup) {id : String}
    (hcreated : id ∈ created) :
    (enrolled created ids).count id = if id ∈ ids then ids.count id else 1 := by
  rw [enrolled, List.count_append]
  by_cases hmem : id ∈ ids
  · have hnone : (created.filter (· ∉ ids)).count id = 0 := by
      rw [List.count_eq_zero]
      exact fun hentered => by simpa [hmem] using (List.mem_filter.1 hentered).2
    rw [if_pos hmem, hnone, Nat.add_zero]
  · have honce : (created.filter (· ∉ ids)).count id = 1 := by
      rw [List.count_filter (by simpa using hmem)]
      exact List.count_eq_one_of_mem hnodup hcreated
    rw [if_neg hmem, List.count_eq_zero.2 hmem, honce, Nat.zero_add]

theorem absent_eq (ids : List String) (numbers : List Nat) :
    absent ids numbers = numbers.filter fun i => serviceId i ∉ ids := by
  apply List.filter_congr
  intro i _
  have hlisted : (IdSet.ofList ids).contains (serviceId i) = true ↔ serviceId i ∈ ids := by
    rw [IdSet.contains_iff, IdSet.mem_toList_ofList, and_iff_left (serviceId_ne_empty i)]
  rw [Bool.eq_iff_iff, Bool.not_eq_true', ← Bool.not_eq_true, hlisted, decide_eq_true_iff]

theorem map_serviceId_absent (ids : List String) (numbers : List Nat) :
    (absent ids numbers).map serviceId = (numbers.map serviceId).filter (· ∉ ids) := by
  rw [absent_eq, List.filter_map]
  rfl

/-- The services of the first stack with a name, none if there is no such stack. -/
def servicesOfStack (name : String) (stackRecords : List Stack) : List String :=
  ((stackRecords.find? fun stack => stack.name = name).map fun stack =>
    stack.services.map StackService.id).getD []

theorem servicesOfStack_cons (name : String) (stack : Stack) (rest : List Stack) :
    servicesOfStack name (stack :: rest) =
      if stack.name = name then stack.services.map StackService.id
      else servicesOfStack name rest := by
  by_cases hname : stack.name = name <;> simp [servicesOfStack, hname]

theorem servicesOfStack_enterStack (name other : String) (entry : StackService)
    (stackRecords : List Stack) :
    servicesOfStack other (enterStack name entry stackRecords) =
      if name = other then enrolled [entry.id] (servicesOfStack other stackRecords)
      else servicesOfStack other stackRecords := by
  induction stackRecords with
  | nil =>
      rw [enterStack, servicesOfStack_cons, enrolled_singleton]
      rfl
  | cons stack rest ih =>
      rw [enterStack]
      by_cases hname : stack.name = name
      · subst hname
        rw [if_pos rfl, servicesOfStack_cons, enrolled_singleton]
        by_cases hother : stack.name = other
        · have hlisted : (stack.services.any fun service => service.id = entry.id) = true ↔
              entry.id ∈ stack.services.map StackService.id := by simp
          simp only [if_pos hother, hlisted]
          split
          · rw [servicesOfStack_cons, if_pos hother]
          · rw [servicesOfStack_cons, if_pos hother, List.map_append]
            rfl
        · rw [if_neg hother, if_neg hother]
          split <;> rw [servicesOfStack_cons, if_neg hother]
      · rw [if_neg hname, servicesOfStack_cons, servicesOfStack_cons, ih]
        by_cases hother : stack.name = other
        · have hne : name ≠ other := fun heq => hname (hother.trans heq.symm)
          rw [if_pos hother, if_pos hother, if_neg hne]
        · rw [if_neg hother, if_neg hother]

/-- Services of other stacks do not count for a stack, and those of its own are entered in turn. -/
theorem servicesOfStack_foldl_enterStack (created : String) {numbers : List Nat}
    (hnodup : numbers.Nodup) (name : String) (stackRecords : List Stack) :
    servicesOfStack name (numbers.foldl (fun stackRecords i =>
        enterStack (stackName i) (stackService created i) stackRecords) stackRecords) =
      enrolled ((numbers.filter fun i => stackName i = name).map serviceId)
        (servicesOfStack name stackRecords) := by
  induction numbers generalizing stackRecords with
  | nil => exact (enrolled_nil _).symm
  | cons i rest ih =>
      obtain ⟨hnew, hnodup⟩ := List.nodup_cons.1 hnodup
      rw [List.foldl_cons, ih hnodup, servicesOfStack_enterStack]
      by_cases hname : stackName i = name
      · have hunlisted : serviceId i ∉
            (rest.filter fun i => stackName i = name).map serviceId := by
          intro hmem
          rw [List.mem_map_of_injective serviceId_injective] at hmem
          exact hnew (List.mem_of_mem_filter hmem)
        rw [if_pos hname, List.filter_cons_of_pos (by simpa using hname), List.map_cons,
          enrolled_cons hunlisted]
        rfl
      · rw [if_neg hname, List.filter_cons_of_neg (by simpa using hname)]

theorem portNumber?_eq_some {i : Nat} (h : i ≤ maxServiceCount) :
    portNumber? i = some (8000 + i) := by
  have hbound : basePort + i ≤ maxPort := by
    rw [maxServiceCount, basePort, maxPort] at h
    rw [basePort, maxPort]
    omega
  rw [portNumber?, if_pos hbound]
  rfl

theorem stackName_ne_empty (i : Nat) : stackName i ≠ "" := by
  have hlt : (i - 1) % stackNames.length < stackNames.length := Nat.mod_lt _ (by decide)
  have hnamed : ∀ name ∈ stackNames, name ≠ "" := by decide
  rw [stackName, List.getD_eq_getElem _ _ hlt]
  exact hnamed _ (List.getElem_mem hlt)

theorem stackName_service (i : Nat) : (service i).stackName = some (stackName i) := by
  have hstack : (service i).stack.filter (· ≠ "") = some (stackName i) :=
    Option.filter_some_pos (by simpa using stackName_ne_empty i)
  rw [Service.stackName, hstack]
  rfl

/-- In a list that ascends, what is within a bound comes first. -/
theorem filter_range'_min (p : Nat → Bool) (count bound : Nat) :
    (List.range' 1 (min count bound)).filter p =
      ((List.range' 1 count).filter p).takeWhile (· ≤ bound) := by
  obtain ⟨beyond, hcount⟩ := Nat.exists_eq_add_of_le (Nat.min_le_left count bound)
  have hsplit : List.range' 1 count =
      List.range' 1 (min count bound) ++ List.range' (1 + min count bound) beyond := by
    rw [List.range'_append_1, ← hcount]
  have hwithin : ∀ i ∈ (List.range' 1 (min count bound)).filter p, decide (i ≤ bound) = true := by
    intro i hi
    have hrange := List.mem_range'_1.1 (List.mem_of_mem_filter hi)
    exact decide_eq_true (by omega)
  have hbeyond : ((List.range' (1 + min count bound) beyond).filter p).takeWhile (· ≤ bound) =
      [] := by
    apply List.takeWhile_eq_nil_iff.2
    intro hlt hle
    have hrange := List.mem_range'_1.1 (List.mem_of_mem_filter (List.get_mem _ ⟨0, hlt⟩))
    have hle := of_decide_eq_true hle
    omega
  rw [hsplit, List.filter_append, List.takeWhile_append_of_pos hwithin, hbeyond, List.append_nil]

end Synthetic

namespace ServiceRoll

/-- Whether synthetic services are entered there: in a stack only its own. -/
def takes : ServiceRoll → Nat → Bool
  | .stack name, i => Synthetic.stackName i = name
  | .ports, _ | .horizontal, _ | .vertical, _ | .logs, _ => true

end ServiceRoll

namespace Document

/-- The IDs in one of the lists that name services. -/
def roll (doc : Document) : ServiceRoll → List String
  | .ports => doc.ports.filterMap PortEntry.serviceId
  | .horizontal => doc.horizontal.services.map ServiceSummary.id
  | .vertical => doc.vertical.services.map ServiceSummary.id
  | .logs => doc.logServices.map LogService.id
  | .stack name => Synthetic.servicesOfStack name doc.stackRecords

/-- Lists of services have grown at their ends, and stacks have gained services.  All else is as it
was. -/
structure ServicesAppended (before after : Document) : Prop where
  services : before.services <+: after.services
  ports : before.ports <+: after.ports
  horizontal : before.horizontal.services <+: after.horizontal.services
  vertical : before.vertical.services <+: after.vertical.services
  logServices : before.logServices <+: after.logServices
  stackRecords : InPlace Synthetic.Grown before.stackRecords after.stackRecords
  rest : before =
    { after with
      services := before.services
      ports := before.ports
      horizontal := { after.horizontal with services := before.horizontal.services }
      vertical := { after.vertical with services := before.vertical.services }
      logServices := before.logServices
      stackRecords := before.stackRecords }

section Added

variable (now : Instant) {numbers : List Nat} (doc : Document)

/-- No number beyond the ports is taken, though services with such a number may have a record. -/
theorem missingServices_eq (count : Nat) :
    doc.missingServices count =
      ((List.range' 1 count).filter fun i => Synthetic.serviceId i ∉ doc.serviceIds).takeWhile
        (· ≤ Synthetic.maxServiceCount) := by
  rw [missingServices_eq_filter, Synthetic.filter_range'_min]

theorem servicesAppended_addSynthetic : doc.ServicesAppended (doc.addSynthetic now numbers) where
  services := List.prefix_append _ _
  ports := List.prefix_append _ _
  horizontal := List.prefix_append _ _
  vertical := List.prefix_append _ _
  logServices := List.prefix_append _ _
  stackRecords := Synthetic.inPlace_foldl_enterStack _ _ numbers doc.stackRecords
  rest := rfl

theorem roll_addSynthetic (hnodup : numbers.Nodup) (roll : ServiceRoll) :
    (doc.addSynthetic now numbers).roll roll =
      Synthetic.enrolled ((numbers.filter roll.takes).map Synthetic.serviceId) (doc.roll roll) := by
  have hall : numbers.filter (fun _ => true) = numbers := List.filter_eq_self.2 fun _ _ => rfl
  have hentered (ids : List String) :
      ids ++ (Synthetic.absent ids numbers).map Synthetic.serviceId =
        Synthetic.enrolled ((numbers.filter fun _ => true).map Synthetic.serviceId) ids := by
    rw [Synthetic.map_serviceId_absent, hall]
    rfl
  cases roll with
  | ports =>
      refine Eq.trans ?_ (hentered _)
      rw [roll, addSynthetic, List.filterMap_append, List.filterMap_map]
      exact congrArg (_ ++ ·) (congrFun List.filterMap_eq_map _)
  | horizontal | vertical | logs =>
      refine Eq.trans ?_ (hentered _)
      rw [roll, addSynthetic, List.map_append, List.map_map]
      rfl
  | stack name => exact Synthetic.servicesOfStack_foldl_enterStack _ hnodup name _

/-- A list that takes a created service has it once, or as often as before. -/
theorem count_roll_addSynthetic (hnodup : numbers.Nodup) {roll : ServiceRoll} {i : Nat}
    (hi : i ∈ numbers) (htakes : roll.takes i = true) :
    ((doc.addSynthetic now numbers).roll roll).count (Synthetic.serviceId i) =
      if Synthetic.serviceId i ∈ doc.roll roll
        then (doc.roll roll).count (Synthetic.serviceId i) else 1 := by
  rw [roll_addSynthetic now doc hnodup]
  apply Synthetic.count_enrolled
  · exact (hnodup.filter _).map Synthetic.serviceId_injective
  · exact List.mem_map_of_mem (List.mem_filter.2 ⟨hi, htakes⟩)

end Added

end Document

/-- The endpoint of a service and its specification list the same ports: this one, published under
its own number. -/
def Service.Publishes (service : Service) (port : Nat) : Prop :=
  ∃ endpoint spec portSpec, service.endpoint = some endpoint ∧ endpoint.spec = some spec ∧
    endpoint.ports = spec.ports ∧ endpoint.ports = [portSpec] ∧
    portSpec.publishedPort = some port ∧ portSpec.targetPort = some port

theorem Synthetic.publishes_service {i : Nat} (h : i ≤ maxServiceCount) :
    (service i).Publishes (8000 + i) :=
  ⟨_, _, portSpec i, rfl, rfl, rfl, rfl, portNumber?_eq_some h, portNumber?_eq_some h⟩

/-- Services are created for the numbers without a record, up to the first one that has no port
left.  Each of them is entered once where it was missing, in the ports, the dashboards, the log list
and the first stack with the name of its own, and nowhere twice.  What was there stays as it was. -/
theorem services_created_once (source : String) (doc : Document) (now : Instant) (count : Nat) :
    let outcome := (Store.of source doc).ensureServices now count
    let after := outcome.1.doc
    let missing := (List.range' 1 count).filter fun i => Synthetic.serviceId i ∉ doc.serviceIds
    let numbers := missing.takeWhile (· ≤ 57535)
    let ports := numbers.map (8000 + ·)
    outcome.2 = numbers.map Synthetic.serviceId ∧ outcome.2.Nodup ∧
      doc.ServicesAppended after ∧
      (∀ roll, ∃ entered ⊆ outcome.2, after.roll roll = doc.roll roll ++ entered) ∧
      ∃ added, after.services = doc.services ++ added ∧ added.map Service.id = outcome.2 ∧
        List.Forall₂ Service.Publishes added ports ∧ ports.Nodup ∧
        (∀ port ∈ ports, 8001 ≤ port ∧ port ≤ 65535) ∧
        (∀ entry ∈ after.ports.drop doc.ports.length, ∃ i ∈ numbers,
          entry.serviceId = some (Synthetic.serviceId i) ∧
            entry.publishedPort = some (8000 + i) ∧ entry.targetPort = some (8000 + i)) ∧
        ∀ service ∈ added, ∃ name, service.stackName = some name ∧
          ∀ roll ∈ [.ports, .horizontal, .vertical, .logs, .stack name],
            (after.roll roll).count service.id =
              if service.id ∈ doc.roll roll then (doc.roll roll).count service.id else 1 := by
  intro outcome after missing numbers ports
  have hnumbers : doc.missingServices count = numbers := doc.missingServices_eq count
  have hafter : after = doc.addSynthetic now numbers := by
    rw [← hnumbers, ← Document.ensured_eq]
    exact congrArg Store.doc (Store.fst_ensureServices_of source doc now count)
  have hcreated : outcome.2 = numbers.map Synthetic.serviceId := by
    rw [← hnumbers]
    exact Store.snd_ensureServices_of source doc now count
  have hnodup : numbers.Nodup :=
    (List.takeWhile_sublist _).nodup ((List.nodup_range').filter _)
  have hrange : ∀ i ∈ numbers, 1 ≤ i ∧ i ≤ Synthetic.maxServiceCount := by
    intro i hi
    rw [← hnumbers] at hi
    have hbounds := List.mem_range'_1.1 (Document.mem_missingServices.1 hi).1
    omega
  rw [hcreated, hafter]
  refine ⟨rfl, hnodup.map Synthetic.serviceId_injective,
    doc.servicesAppended_addSynthetic now, ?_, numbers.map Synthetic.service, rfl, ?_, ?_, ?_, ?_,
    ?_, ?_⟩
  · intro roll
    refine ⟨_, ?_, doc.roll_addSynthetic now hnodup roll⟩
    intro id hentered
    obtain ⟨i, hi, rfl⟩ := List.mem_map.1 (List.mem_of_mem_filter hentered)
    exact List.mem_map_of_mem (List.mem_of_mem_filter hi)
  · exact List.map_map
  · rw [List.forall₂_map_left_iff, List.forall₂_map_right_iff, List.forall₂_same]
    exact fun i hi => Synthetic.publishes_service (hrange i hi).2
  · exact hnodup.map fun i j heq => Nat.add_left_cancel heq
  · intro port hport
    obtain ⟨i, hi, rfl⟩ := List.mem_map.1 hport
    have hbounds := hrange i hi
    simp only [Synthetic.maxServiceCount, Synthetic.maxPort, Synthetic.basePort] at hbounds
    omega
  · intro entry hentry
    rw [Document.addSynthetic, List.drop_left] at hentry
    obtain ⟨i, habsent, rfl⟩ := List.mem_map.1 hentry
    have hi : i ∈ numbers := List.mem_of_mem_filter habsent
    have hport := Synthetic.portNumber?_eq_some (hrange i hi).2
    exact ⟨i, hi, rfl, hport, hport⟩
  · intro service hservice
    obtain ⟨i, hi, rfl⟩ := List.mem_map.1 hservice
    refine ⟨_, Synthetic.stackName_service i, fun roll hroll => ?_⟩
    have htakes : ∀ roll ∈ [.ports, .horizontal, .vertical, .logs,
        ServiceRoll.stack (Synthetic.stackName i)], roll.takes i = true := by
      simp [ServiceRoll.takes]
    exact doc.count_roll_addSynthetic now hnodup hi (htakes roll hroll)

end MockCluster
