import MockCluster.Proofs.Document.Listings
import MockCluster.Proofs.InPlace
import MockCluster.Proofs.Index
import MockCluster.Synthesis.Services
import Std.Data.String.ToNat

/-!
Synthetic services: afterwards all numbers up to the count have a record, and a second pass finds
none missing.
-/

namespace MockCluster

namespace Synthetic

theorem serviceId_ne_empty (i : Nat) : serviceId i ≠ "" := by
  simp [serviceId, String.append_eq_empty_iff]

theorem serviceId_injective : Function.Injective serviceId := by
  intro i j heq
  rw [serviceId, serviceId, String.append_right_inj] at heq
  exact Nat.repr_injective heq

/-- Services were entered in a stack, and nothing else. -/
def Grown (before after : Stack) : Prop :=
  ∃ entered, after = { before with services := before.services ++ entered }

theorem Grown.refl (stack : Stack) : Grown stack stack := ⟨[], by simp⟩

theorem Grown.trans {first second third : Stack} (h : Grown first second)
    (h' : Grown second third) : Grown first third := by
  obtain ⟨entered, rfl⟩ := h
  obtain ⟨later, rfl⟩ := h'
  exact ⟨entered ++ later, by simp⟩

theorem inPlace_enterStack (name : String) (entry : StackService) (stackRecords : List Stack) :
    InPlace Grown stackRecords (enterStack name entry stackRecords) := by
  induction stackRecords with
  | nil =>
      intro i stack hstack
      cases hstack
  | cons first rest ih =>
      rw [enterStack]
      split
      next =>
        split
        next => exact .refl .refl _
        next => exact (InPlace.refl .refl rest).cons ⟨[entry], rfl⟩
      next => exact ih.cons (.refl first)

theorem inPlace_foldl_enterStack (name : Nat → String) (entry : Nat → StackService)
    (numbers : List Nat) (stackRecords : List Stack) :
    InPlace Grown stackRecords (numbers.foldl
      (fun stackRecords i => enterStack (name i) (entry i) stackRecords) stackRecords) := by
  induction numbers generalizing stackRecords with
  | nil => exact .refl .refl _
  | cons number rest ih =>
      exact (inPlace_enterStack _ _ stackRecords).trans (ih _) fun _ _ _ => .trans

end Synthetic

namespace Document

/-- The numbers up to a count whose services have no record. -/
def missingServices (count : Nat) (doc : Document) : List Nat :=
  (Store.of "" doc).missingSynthetic count

def ensured (now : Instant) (count : Nat) (doc : Document) : Document :=
  if (doc.missingServices count).isEmpty then doc
  else doc.addSynthetic now (doc.missingServices count)

def Ensured (count : Nat) (doc : Document) : Prop :=
  ∀ i ∈ List.range' 1 (min count Synthetic.maxServiceCount), Synthetic.serviceId i ∈ doc.serviceIds

theorem missingServices_eq_filter (count : Nat) (doc : Document) :
    doc.missingServices count = (List.range' 1 (min count Synthetic.maxServiceCount)).filter
      fun i => Synthetic.serviceId i ∉ doc.serviceIds := by
  apply List.filter_congr
  intro i _
  rw [Bool.eq_iff_iff, Bool.not_eq_true', ← Bool.not_eq_true, Store.contains_service_of,
    and_iff_left (Synthetic.serviceId_ne_empty i), decide_eq_true_iff]

theorem mem_missingServices {count : Nat} {doc : Document} {i : Nat} :
    i ∈ doc.missingServices count ↔
      i ∈ List.range' 1 (min count Synthetic.maxServiceCount) ∧
        Synthetic.serviceId i ∉ doc.serviceIds := by
  rw [missingServices_eq_filter, List.mem_filter, decide_eq_true_iff]

theorem missingServices_eq_nil_iff {count : Nat} {doc : Document} :
    doc.missingServices count = [] ↔ doc.Ensured count := by
  rw [List.eq_nil_iff_forall_not_mem]
  simp only [mem_missingServices, not_and, not_not, Ensured]

theorem ensured_of_ensured {now : Instant} {count : Nat} {doc : Document} (h : doc.Ensured count) :
    doc.ensured now count = doc := by
  rw [ensured, missingServices_eq_nil_iff.2 h]
  rfl

variable (now : Instant) (count : Nat) (doc : Document)

theorem addSynthetic_nil : doc.addSynthetic now [] = doc := by
  simp [addSynthetic, Synthetic.absent]

theorem ensured_eq : doc.ensured now count = doc.addSynthetic now (doc.missingServices count) := by
  unfold ensured
  split
  next hnone => rw [List.isEmpty_iff.1 hnone, addSynthetic_nil]
  next => rfl

theorem serviceIds_addSynthetic (numbers : List Nat) :
    (doc.addSynthetic now numbers).serviceIds =
      doc.serviceIds ++ numbers.map Synthetic.serviceId := by
  simp [serviceIds, addSynthetic, Function.comp_def, Synthetic.service]

theorem ensured_ensured : (doc.ensured now count).Ensured count := by
  intro i hi
  rw [ensured_eq, serviceIds_addSynthetic, List.mem_append]
  by_cases hrecorded : Synthetic.serviceId i ∈ doc.serviceIds
  · exact .inl hrecorded
  · exact .inr (List.mem_map_of_mem (mem_missingServices.2 ⟨hi, hrecorded⟩))

theorem tasks_ensured : (doc.ensured now count).tasks = doc.tasks := by
  rw [ensured_eq]
  rfl

theorem nodeListings_ensured : (doc.ensured now count).nodeListings = doc.nodeListings := by
  rw [ensured_eq]
  rfl

theorem serviceIdsKept_addSynthetic (numbers : List Nat) :
    ServiceIdsKept doc (doc.addSynthetic now numbers) := by
  intro i ids hids
  match i with
  | 0 =>
      cases hids
      exact ⟨_, rfl, serviceIds_addSynthetic now doc numbers ▸ List.prefix_append _ _⟩
  | 1 | 2 | 3 =>
      cases hids
      refine ⟨_, rfl, ?_⟩
      simp only [addSynthetic, List.map_append]
      exact List.prefix_append _ _
  | i + 4 =>
      have hstack : (doc.stackRecords.map fun stack =>
          stack.services.map StackService.id)[i]? = some ids := hids
      rw [List.getElem?_map, Option.map_eq_some_iff] at hstack
      obtain ⟨stack, hstack, rfl⟩ := hstack
      obtain ⟨grown, hgrown, entered, rfl⟩ :=
        Synthetic.inPlace_foldl_enterStack Synthetic.stackName
          (Synthetic.stackService (now.timestamp 0)) numbers doc.stackRecords i stack hstack
      refine ⟨_, ?_, (List.prefix_append stack.services entered).map StackService.id⟩
      change (List.map _ _)[i]? = _
      rw [List.getElem?_map]
      exact Option.map_eq_some_iff.2 ⟨_, hgrown, rfl⟩

theorem serviceIdsKept_ensured : ServiceIdsKept doc (doc.ensured now count) := by
  rw [ensured_eq]
  exact serviceIdsKept_addSynthetic now doc _

end Document

theorem Store.fst_ensureServices_of (source : String) (doc : Document) (now : Instant)
    (count : Nat) :
    ((of source doc).ensureServices now count).1 = of source (doc.ensured now count) := by
  unfold ensureServices Document.ensured
  split
  next hnone =>
    rw [if_pos]
    exact hnone
  next hsome =>
    rw [if_neg]
    · rfl
    · exact hsome

theorem Store.snd_ensureServices_of (source : String) (doc : Document) (now : Instant)
    (count : Nat) :
    ((of source doc).ensureServices now count).2 =
      (doc.missingServices count).map Synthetic.serviceId := by
  unfold ensureServices
  change (if (doc.missingServices count).isEmpty then _ else _ : Store × List String).2 = _
  split
  next hnone => rw [List.isEmpty_iff.1 hnone, List.map_nil]
  next => rfl

end MockCluster
