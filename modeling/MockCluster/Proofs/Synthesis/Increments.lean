import MockCluster.Proofs.Synthesis.Enrolment
import MockCluster.Proofs.Synthesis.Passes

/-!
A synthesis up to some count, followed by one up to a larger count, does what the second one does
alone.

Both enter what is missing in the order of the numbers, and what the first one adds changes neither
the nodes that tasks are placed on nor the names and stacks of services.
-/

namespace MockCluster

section Entered

variable {α : Type} {id : α → String} {early late : List α}

theorem filter_entered (ids : List String) :
    early.filter (fun item =>
      id item ∉ ids ++ (early.filter fun item => id item ∉ ids).map id) = [] := by
  rw [List.filter_eq_nil_iff]
  intro item hitem hmissing
  obtain ⟨hunlisted, hunentered⟩ := not_or.1 (mt List.mem_append.2 (of_decide_eq_true hmissing))
  exact hunentered (List.mem_map_of_mem (List.mem_filter.2 ⟨hitem, decide_eq_true hunlisted⟩))

/-- What was entered under other IDs does not count. -/
theorem filter_entered_others (hinj : Function.Injective id) (hnodup : (early ++ late).Nodup)
    (ids : List String) :
    late.filter (fun item =>
        id item ∉ ids ++ (early.filter fun item => id item ∉ ids).map id) =
      late.filter fun item => id item ∉ ids := by
  apply List.filter_congr
  intro item hitem
  have hunentered : id item ∉ (early.filter fun item => id item ∉ ids).map id := by
    intro hentered
    rw [List.mem_map_of_injective hinj] at hentered
    exact (List.nodup_append.1 hnodup).2.2 item (List.mem_of_mem_filter hentered) item hitem rfl
  rw [decide_eq_decide, List.mem_append, or_iff_left hunentered]

/-- What a list lacks is entered at once, or first for a part of the list and then for all of it. -/
theorem filter_append_entered (hinj : Function.Injective id) (hnodup : (early ++ late).Nodup)
    (ids : List String) :
    (early ++ late).filter (fun item => id item ∉ ids) =
      (early.filter fun item => id item ∉ ids) ++
        (early ++ late).filter fun item =>
          id item ∉ ids ++ (early.filter fun item => id item ∉ ids).map id := by
  rw [List.filter_append, List.filter_append, filter_entered, List.nil_append,
    filter_entered_others hinj hnodup]

end Entered

namespace Synthetic

theorem exists_range'_append (first : Nat) {fewer more : Nat} (h : fewer ≤ more) :
    ∃ late, List.range' first more = List.range' first fewer ++ late :=
  ⟨_, by rw [List.range'_append_1, Nat.add_sub_cancel' h]⟩

theorem exists_taskNumbers_append {fewer more : Nat} (h : fewer ≤ more) :
    ∃ late, taskNumbers more = taskNumbers fewer ++ late := by
  obtain ⟨late, hrange⟩ := exists_range'_append 1 h
  refine ⟨late.flatMap fun i => (List.range (1 + i % 3)).map fun j => (i, j), ?_⟩
  rw [taskNumbers, hrange, List.flatMap_append]
  rfl

theorem injective_taskId :
    Function.Injective fun number : Nat × Nat => taskId number.1 number.2 := by
  rintro ⟨i, j⟩ ⟨k, l⟩ heq
  obtain ⟨rfl, rfl⟩ := taskId_injective heq
  rfl

theorem absent_append {early late : List Nat} (hnodup : (early ++ late).Nodup)
    (ids : List String) :
    absent ids (early ++ late) =
      absent ids early ++ absent (ids ++ (absent ids early).map serviceId) late := by
  simp only [absent_eq]
  rw [List.filter_append, filter_entered_others serviceId_injective hnodup]

end Synthetic

namespace Document

variable (now : Instant) (doc : Document)

theorem addSynthetic_addSynthetic {early late : List Nat} (hnodup : (early ++ late).Nodup) :
    (doc.addSynthetic now early).addSynthetic now late = doc.addSynthetic now (early ++ late) := by
  have hports (numbers : List Nat) :
      (numbers.map Synthetic.portEntry).filterMap PortEntry.serviceId =
        numbers.map Synthetic.serviceId := by
    rw [List.filterMap_map]
    exact congrFun List.filterMap_eq_map _
  have hentries (numbers : List Nat) :
      (numbers.map Synthetic.horizontalSummary).map ServiceSummary.id =
          numbers.map Synthetic.serviceId ∧
        (numbers.map Synthetic.verticalSummary).map ServiceSummary.id =
          numbers.map Synthetic.serviceId ∧
        (numbers.map Synthetic.logService).map LogService.id =
          numbers.map Synthetic.serviceId := by
    simp only [List.map_map]
    exact ⟨rfl, rfl, rfl⟩
  simp only [addSynthetic, List.map_append, List.filterMap_append, List.foldl_append,
    Synthetic.absent_append hnodup, List.append_assoc, hports, hentries]

theorem regenerateTimeline_foldl_insertTask (tasks : List Task) :
    (tasks.foldl insertTask doc.regenerateTimeline).regenerateTimeline =
      (tasks.foldl insertTask doc).regenerateTimeline := by
  -- Inserting does not look at the timeline, so it is made again from the tasks either way.
  induction tasks generalizing doc with
  | nil => rfl
  | cons task rest ih =>
      rw [List.foldl_cons, List.foldl_cons, ← ih (doc.insertTask task),
        ← insertTask_regenerateTimeline, ih]

theorem insertAll_insertAll (early late : List Task) :
    (doc.insertAll early).insertAll late = doc.insertAll (early ++ late) := by
  cases early with
  | nil => rfl
  | cons first early =>
      cases late with
      | nil =>
          rw [List.append_nil]
          rfl
      | cons next late =>
          change ((next :: late).foldl insertTask
            ((first :: early).foldl insertTask doc).regenerateTimeline).regenerateTimeline =
              ((first :: early ++ next :: late).foldl insertTask doc).regenerateTimeline
          rw [regenerateTimeline_foldl_insertTask, List.foldl_append]

theorem owner_mapServiceGroupings (f : Bool → String → Option Grouping → Option Grouping)
    (i : Nat) : (doc.mapServiceGroupings f).owner i = doc.owner i := by
  simp only [owner, mapServiceGroupings, List.find?_map, Function.comp_def]
  cases doc.services.find? _ <;> rfl

theorem placements_mapNodeGroupings (f : Bool → String → Option Grouping → Option Grouping) :
    (doc.mapNodeGroupings f).placements = doc.placements := by
  unfold placements roster
  rw [usesHorizontalRoster_mapNodeGroupings]
  split <;> simp only [mapNodeGroupings, List.filter_map, List.map_map] <;> rfl

/-- Tasks find the same owners and the same nodes in both documents. -/
structure PlacesAlike (before after : Document) : Prop where
  owner : after.owner = before.owner
  placements : after.placements = before.placements

namespace PlacesAlike

theorem refl : PlacesAlike doc doc := ⟨rfl, rfl⟩

theorem insertTask (task : Task) : PlacesAlike doc (doc.insertTask task) := by
  rw [Document.insertTask, fileTask_eq]
  exact ⟨funext (owner_mapServiceGroupings (doc.mapNodeGroupings _) _),
    placements_mapNodeGroupings doc _⟩

theorem insertAll (tasks : List Task) : PlacesAlike doc (doc.insertAll tasks) := by
  have hfiled : PlacesAlike doc (tasks.foldl Document.insertTask doc) := by
    induction tasks generalizing doc with
    | nil => exact .refl doc
    | cons task rest ih =>
        have hrest := ih (doc.insertTask task)
        have hfirst := insertTask doc task
        exact ⟨hrest.owner.trans hfirst.owner, hrest.placements.trans hfirst.placements⟩
  unfold Document.insertAll
  split
  · exact .refl doc
  · exact ⟨hfiled.owner, hfiled.placements⟩

theorem extraSynthesized (services : Nat) :
    PlacesAlike doc (doc.extraSynthesized now services) := by
  unfold Document.extraSynthesized
  split
  · exact .refl doc
  · exact .insertAll doc _

variable {doc} {after : Document}

theorem rotatedTask (h : PlacesAlike doc after) : after.rotatedTask now = doc.rotatedTask now := by
  funext number
  simp only [Document.rotatedTask, syntheticTask, h.owner, h.placements]

theorem extraTask (h : PlacesAlike doc after) : after.extraTask now = doc.extraTask now := by
  funext first i
  simp only [Document.extraTask, syntheticTask, h.owner]

end PlacesAlike

theorem missingTasks_eq (services : Nat) :
    doc.missingTasks services = (Synthetic.taskNumbers services).filter fun number =>
      Synthetic.taskId number.1 number.2 ∉ doc.taskIds := by
  apply List.filter_congr
  intro number _
  rw [Bool.eq_iff_iff, Bool.not_eq_true', ← Bool.not_eq_true, hasTask_of, decide_eq_true_iff]

theorem missingExtras_eq (services : Nat) :
    doc.missingExtras services = (List.range' 1 services).filter fun i =>
      Synthetic.extraTaskId i ∉ doc.taskIds := by
  apply List.filter_congr
  intro i _
  rw [Bool.eq_iff_iff, Bool.not_eq_true', ← Bool.not_eq_true, hasTask_of, decide_eq_true_iff]

variable {fewer more : Nat}

theorem missingServices_ensured (h : fewer ≤ more) :
    doc.missingServices more =
      doc.missingServices fewer ++ (doc.ensured now fewer).missingServices more := by
  have hlimited : min fewer Synthetic.maxServiceCount ≤ min more Synthetic.maxServiceCount := by
    omega
  obtain ⟨late, hrange⟩ := Synthetic.exists_range'_append 1 hlimited
  have hids : (doc.ensured now fewer).serviceIds = doc.serviceIds ++
      (doc.missingServices fewer).map Synthetic.serviceId := by
    rw [ensured_eq, serviceIds_addSynthetic]
  simp only [missingServices_eq_filter] at hids ⊢
  rw [hids, hrange]
  exact filter_append_entered Synthetic.serviceId_injective (hrange ▸ List.nodup_range') _

theorem missingTasks_synthesized (h : fewer ≤ more) :
    doc.missingTasks more =
      doc.missingTasks fewer ++ (doc.synthesized now fewer).missingTasks more := by
  obtain ⟨late, hnumbers⟩ := Synthetic.exists_taskNumbers_append h
  have hids : (doc.synthesized now fewer).taskIds = doc.taskIds ++
      (doc.missingTasks fewer).map fun number => Synthetic.taskId number.1 number.2 := by
    rw [Document.synthesized, taskIds_insertAll, map_id_rotatedTask]
  simp only [missingTasks_eq] at hids ⊢
  rw [hids, hnumbers]
  exact filter_append_entered Synthetic.injective_taskId
    (hnumbers ▸ Synthetic.nodup_taskNumbers more) _

theorem missingExtras_insertAll (h : fewer ≤ more) (first : Placement) :
    let filled := doc.insertAll ((doc.missingExtras fewer).map (doc.extraTask now first))
    doc.missingExtras more = doc.missingExtras fewer ++ filled.missingExtras more := by
  intro filled
  obtain ⟨late, hrange⟩ := Synthetic.exists_range'_append 1 h
  have hids : filled.taskIds =
      doc.taskIds ++ (doc.missingExtras fewer).map Synthetic.extraTaskId := by
    rw [taskIds_insertAll, map_id_extraTask]
  simp only [missingExtras_eq] at hids ⊢
  rw [hids, hrange]
  exact filter_append_entered Synthetic.extraTaskId_injective (hrange ▸ List.nodup_range') _

theorem ensured_ensured_of_le (h : fewer ≤ more) :
    (doc.ensured now fewer).ensured now more = doc.ensured now more := by
  have hmissing := doc.missingServices_ensured now h
  have hnodup : (doc.missingServices more).Nodup := (List.nodup_range').filter _
  rw [hmissing] at hnodup
  rw [doc.ensured_eq now more, hmissing, ← addSynthetic_addSynthetic now doc hnodup,
    ← doc.ensured_eq now fewer, ensured_eq]

theorem synthesized_synthesized (h : fewer ≤ more) :
    (doc.synthesized now fewer).synthesized now more = doc.synthesized now more := by
  have halike : PlacesAlike doc (doc.synthesized now fewer) := .insertAll doc _
  have hmissing := doc.missingTasks_synthesized now h
  unfold Document.synthesized at halike hmissing ⊢
  rw [hmissing, List.map_append, ← insertAll_insertAll, halike.rotatedTask]

theorem extraSynthesized_of_none (hnone : doc.placements.head? = none) (services : Nat) :
    doc.extraSynthesized now services = doc := by
  rw [Document.extraSynthesized, hnone]

theorem extraSynthesized_of_some {first : Placement} (hfirst : doc.placements.head? = some first)
    (services : Nat) :
    doc.extraSynthesized now services =
      doc.insertAll ((doc.missingExtras services).map (doc.extraTask now first)) := by
  rw [Document.extraSynthesized, hfirst]

/-- Both runs of the second pass, in the document and in what they count. -/
theorem extraSynthesized_extraSynthesized (h : fewer ≤ more) :
    (doc.extraSynthesized now fewer).extraSynthesized now more = doc.extraSynthesized now more ∧
      doc.wantedExtras more =
        doc.wantedExtras fewer ++ (doc.extraSynthesized now fewer).wantedExtras more := by
  have halike := PlacesAlike.extraSynthesized now doc fewer
  have hhead := congrArg List.head? halike.placements
  cases hfirst : doc.placements.head? with
  | none =>
      rw [wantedExtras_of_none doc _ hfirst, wantedExtras_of_none doc _ hfirst,
        wantedExtras_of_none _ _ (hhead.trans hfirst),
        extraSynthesized_of_none now doc hfirst fewer]
      exact ⟨rfl, rfl⟩
  | some first =>
      have hmissing := doc.missingExtras_insertAll now h first
      rw [← extraSynthesized_of_some now doc hfirst] at hmissing
      constructor
      · rw [extraSynthesized_of_some now _ (hhead.trans hfirst),
          extraSynthesized_of_some now doc hfirst more, hmissing, List.map_append,
          ← insertAll_insertAll, halike.extraTask, extraSynthesized_of_some now doc hfirst]
      · rw [wantedExtras_of_some doc _ hfirst, wantedExtras_of_some doc _ hfirst,
          wantedExtras_of_some _ _ (hhead.trans hfirst), hmissing]

end Document

namespace Store

variable (source : String) (doc : Document) (now : Instant)

theorem ensureServices_of (count : Nat) :
    (of source doc).ensureServices now count =
      (of source (doc.ensured now count),
        (doc.missingServices count).map Synthetic.serviceId) :=
  Prod.ext (fst_ensureServices_of source doc now count) (snd_ensureServices_of source doc now count)

theorem synthesizeTasks_of (services : Nat) :
    (of source doc).synthesizeTasks now services =
      (of source (doc.synthesized now services), (doc.missingTasks services).length) :=
  Prod.ext (fst_synthesizeTasks_of source doc now services) (List.length_map _)

theorem synthesizeExtraTasks_of (services : Nat) :
    (of source doc).synthesizeExtraTasks now services =
      (of source (doc.extraSynthesized now services), (doc.wantedExtras services).length) := by
  refine Prod.ext (fst_synthesizeExtraTasks_of source doc now services) ?_
  have hcounted := (doc.gains_synthesizeExtraTasks now source services).counted
  rw [List.length_map] at hcounted
  exact hcounted

theorem synthesizeTasksWithin_of_eq_ok_iff (services : Nat) (outcome : Store × Nat) :
    (of source doc).synthesizeTasksWithin now services = .ok outcome ↔
      outcome = (of source doc).synthesizeTasks now services ∧
        ∀ number ∈ doc.missingTasks services, now.reaches number.2 = true := by
  have hends := synthesizeTasksWithin_eq_ok_iff (of source doc) now services
  constructor
  · intro hok
    have houtcome : outcome = (of source doc).synthesizeTasks now services := by
      unfold synthesizeTasksWithin at hok
      dsimp only at hok
      split at hok
      · exact (Except.ok.inj hok).symm
      · cases hok
    exact ⟨houtcome, hends.1 (houtcome ▸ hok)⟩
  · rintro ⟨rfl, hreached⟩
    exact hends.2 hreached

end Store

/-- A synthesis may be done in steps: running it up to a count and then up to a larger one leaves
what the second run leaves alone, and together they create what it creates.  This goes for the
services and for both passes of the tasks, and the first pass gets to its end in two steps if and
only if it does so in one. -/
theorem synthesis_in_steps {store : Store} (hfresh : store.IsFresh) {fewer more : Nat}
    (hle : fewer ≤ more) (now : Instant) :
    (let first := store.ensureServices now fewer
      let second := first.1.ensureServices now more
      store.ensureServices now more = (second.1, first.2 ++ second.2)) ∧
    (let first := store.synthesizeTasks now fewer
      let second := first.1.synthesizeTasks now more
      store.synthesizeTasks now more = (second.1, first.2 + second.2)) ∧
    (let first := store.synthesizeExtraTasks now fewer
      let second := first.1.synthesizeExtraTasks now more
      store.synthesizeExtraTasks now more = (second.1, first.2 + second.2)) ∧
    ∀ outcome, store.synthesizeTasksWithin now more = .ok outcome ↔
      ∃ first second, store.synthesizeTasksWithin now fewer = .ok first ∧
        first.1.synthesizeTasksWithin now more = .ok second ∧
        outcome = (second.1, first.2 + second.2) := by
  obtain ⟨source, doc, rfl⟩ : ∃ source doc, store = Store.of source doc := ⟨_, _, hfresh.eq_of⟩
  have htasks : (Store.of source doc).synthesizeTasks now more =
      (((Store.of source (doc.synthesized now fewer)).synthesizeTasks now more).1,
        ((Store.of source doc).synthesizeTasks now fewer).2 +
          ((Store.of source (doc.synthesized now fewer)).synthesizeTasks now more).2) := by
    simp only [Store.synthesizeTasks_of, doc.synthesized_synthesized now hle, ← List.length_append,
      ← doc.missingTasks_synthesized now hle]
  refine ⟨?_, ?_, ?_, ?_⟩
  · simp only [Store.ensureServices_of, doc.ensured_ensured_of_le now hle, ← List.map_append,
      ← doc.missingServices_ensured now hle]
  · intro first second
    rw [htasks]
    simp only [second, first, Store.fst_synthesizeTasks_of]
  · obtain ⟨hdoc, hwanted⟩ := doc.extraSynthesized_extraSynthesized now hle
    simp only [Store.synthesizeExtraTasks_of, hdoc, ← List.length_append, ← hwanted]
  · intro outcome
    rw [Store.synthesizeTasksWithin_of_eq_ok_iff, doc.missingTasks_synthesized now hle,
      List.forall_mem_append]
    constructor
    · rintro ⟨rfl, hearly, hlate⟩
      refine
        ⟨_, _, (Store.synthesizeTasksWithin_of_eq_ok_iff _ _ _ _ _).2 ⟨rfl, hearly⟩, ?_, htasks⟩
      rw [Store.fst_synthesizeTasks_of]
      exact (Store.synthesizeTasksWithin_of_eq_ok_iff _ _ _ _ _).2 ⟨rfl, hlate⟩
    · rintro ⟨first, second, hfirst, hsecond, rfl⟩
      obtain ⟨rfl, hearly⟩ := (Store.synthesizeTasksWithin_of_eq_ok_iff _ _ _ _ _).1 hfirst
      rw [Store.fst_synthesizeTasks_of] at hsecond
      obtain ⟨rfl, hlate⟩ := (Store.synthesizeTasksWithin_of_eq_ok_iff _ _ _ _ _).1 hsecond
      exact ⟨htasks.symm, hearly, hlate⟩

/-- A service and a task of another one that are there already, and a node without an ID. -/
def partlyFilled : Document where
  nodes := [{ id := "" }, { id := "n1" }]
  services := [{ id := "gensvc2", name := some "kept" }]
  tasks := [{ id := "task-gensvc3-1", serviceId := some "gensvc3" }]

theorem synthesis_in_steps_partlyFilled :
    let store := Store.of "doc.json" partlyFilled
    let services := store.ensureServices ⟨0, 0⟩ 1
    let tasks := store.synthesizeTasks ⟨0, 0⟩ 1
    store.IsFresh ∧ 1 ≤ 3 ∧
      services.2 ++ (services.1.ensureServices ⟨0, 0⟩ 3).2 = ["gensvc1", "gensvc3"] ∧
      store.synthesizeTasks ⟨0, 0⟩ 3 =
        ((tasks.1.synthesizeTasks ⟨0, 0⟩ 3).1,
          tasks.2 + (tasks.1.synthesizeTasks ⟨0, 0⟩ 3).2) := by
  intro store services tasks
  have hfresh : store.IsFresh := Store.isFresh_of _ _
  obtain ⟨hservices, htasks, _⟩ := synthesis_in_steps hfresh (show 1 ≤ 3 by decide) ⟨0, 0⟩
  refine ⟨hfresh, by decide, (congrArg Prod.snd hservices).symm.trans ?_, htasks⟩
  rw [Store.snd_ensureServices_of, Document.missingServices_eq_filter]
  decide

end MockCluster
