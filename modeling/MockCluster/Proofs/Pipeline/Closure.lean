import MockCluster.Proofs.Pipeline.Effect
import MockCluster.Proofs.Pipeline.Stale
import MockCluster.Proofs.Views.Sync

/-!
A synthesis keeps references closed: the tasks it adds have a service on record and stand on listed
nodes, and every reference in a grouping belongs to a task.

References without a node are kept in a list of their own.  A task that only this list knows joins
the tasks with what its reference says, be it a service or none.
-/

namespace MockCluster

open Document

/-- Filing a reference adds nothing else to a holder. -/
theorem Holder.mem_refs_change_fileAt {place : Option (String × String)} {filed ref : TaskRef}
    {holder : Holder} (hmem : ref ∈ (holder.change (fileAt place filed)).refs) :
    ref ∈ holder.refs ∨ ref = filed := by
  obtain ⟨gains, owner, held⟩ := holder
  cases place with
  | none => exact .inl hmem
  | some pair =>
      simp only [refs, change, fileAt] at hmem ⊢
      split at hmem
      next =>
        cases held with
        | none =>
            cases gains with
            | false => exact .inl hmem
            | true => exact Grouping.mem_refs_file.1 hmem
        | some grouping => exact Grouping.mem_refs_file.1 hmem
      next => exact .inl hmem

/-- Whether the service of a task is found, and its node if it has one. -/
structure Store.Resolves (store : Store) (task : Task) : Prop where
  service : ∃ id, task.serviceId = some id ∧ ∃ record ∈ store.doc.services, record.id = id ∧
    store.resolve .service id = .ok (.service record)
  node : ∀ id, task.nodeId = some id → ∃ record ∈ store.doc.allNodes, record.id = id ∧
    store.resolve .node id = .ok (.node record)

namespace Document

/-- Whether the service of a task is on record, and its node listed if it has one. -/
structure Supports (doc : Document) (task : Task) : Prop where
  service : ∃ id ∈ doc.serviceIds, id ≠ "" ∧ task.serviceId = some id
  node : ∀ id, task.nodeId = some id → id ∈ doc.nodeIds ∧ id ≠ ""

theorem Supports.resolves {doc : Document} {task : Task} (h : doc.Supports task)
    (source : String) : (Store.of source doc).Resolves task where
  service := by
    obtain ⟨id, hmem, _, hservice⟩ := h.service
    rw [← doc.ids_entities_service] at hmem
    obtain ⟨_, hentity, hid, hresolve⟩ := Store.exists_resolve_of source hmem nofun
    obtain ⟨record, hrecord, rfl⟩ := List.mem_map.1 hentity
    exact ⟨id, hservice, record, hrecord, hid, hresolve⟩
  node := by
    intro id hnode
    obtain ⟨hmem, hne⟩ := h.node id hnode
    rw [← doc.ids_entities_node] at hmem
    obtain ⟨_, hentity, hid, hresolve⟩ := Store.exists_resolve_of source hmem fun _ => hne
    obtain ⟨record, hrecord, rfl⟩ := List.mem_map.1 hentity
    exact ⟨record, hrecord, hid, hresolve⟩

theorem Supports.mono {before after : Document} {task : Task} (h : before.Supports task)
    (hservices : before.serviceIds ⊆ after.serviceIds) (hnodes : before.nodeIds ⊆ after.nodeIds) :
    after.Supports task where
  service :=
    let ⟨id, hmem, hid⟩ := h.service
    ⟨id, hservices hmem, hid⟩
  node id hnode := (h.node id hnode).imp_left fun hmem => hnodes hmem

theorem Supports.of_sameListings {before after : Document} {task : Task}
    (h : before.Supports task) (hsame : SameListings before after) : after.Supports task := by
  apply h.mono
  · rw [hsame.serviceIds_eq]
    exact List.Subset.refl _
  · rw [hsame.nodeIds_eq]
    exact List.Subset.refl _

/-- The references in all groupings. -/
def groupedRefs (doc : Document) : List TaskRef :=
  (doc.nodeGroupings ++ doc.serviceGroupings).flatMap fun (_, held) => (held.getD ∅).refs

theorem mem_groupedRefs {doc : Document} {ref : TaskRef} :
    ref ∈ doc.groupedRefs ↔
      (∃ holder ∈ doc.nodeHolders, ref ∈ holder.refs) ∨
        ∃ holder ∈ doc.serviceHolders, ref ∈ holder.refs := by
  simp [groupedRefs, nodeGroupings, serviceGroupings, allNodes, summaries, nodeHolders,
    serviceHolders, Holder.refs, Holder.ofNode, Holder.ofService, Holder.ofSummary, or_assoc,
    or_and_right, exists_or]

theorem mem_filedRefs {doc : Document} {ref : TaskRef} :
    ref ∈ doc.filedRefs ↔ ref ∈ doc.groupedRefs ∨ ref ∈ doc.horizontal.unassigned := by
  simp only [filedRefs, List.mem_append, List.mem_flatMap, mem_groupedRefs]
  exact or_right_comm

/-- Synthetic services come with no references. -/
theorem groupedRefs_addSynthetic (now : Instant) (numbers : List Nat) (doc : Document) :
    (doc.addSynthetic now numbers).groupedRefs = doc.groupedRefs := by
  have hnone : ∀ (owned : Nat → String × Option Grouping) (numbers : List Nat),
      (∀ i, ((owned i).2.getD ∅).refs = []) →
      (numbers.map owned).flatMap (fun (_, held) => (held.getD ∅).refs) = [] := by
    intro owned numbers hrefs
    rw [List.flatMap_eq_nil_iff, List.forall_mem_map]
    exact fun i _ => hrefs i
  simp only [groupedRefs, serviceGroupings, summaries, addSynthetic, List.map_append, List.map_map,
    List.flatMap_append]
  rw [hnone _ _ fun _ => rfl, hnone _ _ fun _ => rfl, hnone _ _ fun _ => rfl]
  simp only [List.append_nil]
  rfl

theorem nodeHolders_insertTask (doc : Document) (task : Task) :
    (doc.insertTask task).nodeHolders =
      doc.nodeHolders.map (Holder.change (fileAt task.nodePlace task.ref)) := by
  rw [← nodeHolders_mapNodeGroupings, insertTask, fileTask_eq]
  rfl

theorem serviceHolders_insertTask (doc : Document) (task : Task) :
    (doc.insertTask task).serviceHolders =
      doc.serviceHolders.map (Holder.change (fileAt task.servicePlace task.ref)) := by
  rw [← serviceHolders_mapNodeGroupings (fileAt task.nodePlace task.ref),
    ← serviceHolders_mapServiceGroupings, insertTask, fileTask_eq]
  rfl

theorem unassigned_insertTask (doc : Document) (task : Task) :
    (doc.insertTask task).horizontal.unassigned =
      doc.horizontal.unassigned ++ task.unassignedRef?.toList := by
  rw [insertTask, fileTask_eq]
  rfl

theorem mem_groupedRefs_insertTask {doc : Document} {task : Task} {ref : TaskRef}
    (hmem : ref ∈ (doc.insertTask task).groupedRefs) : ref ∈ doc.groupedRefs ∨ ref = task.ref := by
  rw [mem_groupedRefs, nodeHolders_insertTask, serviceHolders_insertTask] at hmem
  rw [mem_groupedRefs]
  rcases hmem with ⟨_, hchanged, href⟩ | ⟨_, hchanged, href⟩
  · obtain ⟨holder, hholder, rfl⟩ := List.mem_map.1 hchanged
    exact (Holder.mem_refs_change_fileAt href).imp_left fun hold => .inl ⟨holder, hholder, hold⟩
  · obtain ⟨holder, hholder, rfl⟩ := List.mem_map.1 hchanged
    exact (Holder.mem_refs_change_fileAt href).imp_left fun hold => .inr ⟨holder, hholder, hold⟩

theorem mem_unassigned_insertTask {doc : Document} {task : Task} {ref : TaskRef}
    (hmem : ref ∈ (doc.insertTask task).horizontal.unassigned) :
    ref ∈ doc.horizontal.unassigned ∨ ref.id = task.id := by
  rw [unassigned_insertTask, List.mem_append, Option.mem_toList] at hmem
  exact hmem.imp_right id_of_unassignedRef?

theorem taskIds_insertTask (doc : Document) (task : Task) :
    (doc.insertTask task).taskIds = doc.taskIds ++ [task.id] := by
  rw [taskIds, tasks_insertTask, List.map_append]
  rfl

/-- Every reference in a grouping belongs to a task, and every reference without a node does unless
it is one of those that went astray before. -/
structure Closed (stray : List TaskRef) (doc : Document) : Prop where
  grouped : ∀ ref ∈ doc.groupedRefs, ref.id ∈ doc.taskIds
  unassigned : ∀ ref ∈ doc.horizontal.unassigned, ref ∈ stray ∨ ref.id ∈ doc.taskIds

namespace Closed

variable {stray : List TaskRef} {doc : Document}

theorem addSynthetic (h : doc.Closed stray) (now : Instant) (numbers : List Nat) :
    (doc.addSynthetic now numbers).Closed stray where
  grouped ref hmem := h.grouped ref (groupedRefs_addSynthetic now numbers doc ▸ hmem)
  unassigned := h.unassigned

theorem ensured (h : doc.Closed stray) (now : Instant) (count : Nat) :
    (doc.ensured now count).Closed stray := by
  rw [ensured_eq]
  exact h.addSynthetic now _

theorem insertTask (h : doc.Closed stray) (task : Task) : (doc.insertTask task).Closed stray := by
  have hlisted : ∀ {id : String}, id ∈ doc.taskIds ∨ id = task.id →
      id ∈ (doc.insertTask task).taskIds := by
    intro id hid
    rwa [taskIds_insertTask, List.mem_append, List.mem_singleton]
  constructor
  · intro ref hmem
    rcases mem_groupedRefs_insertTask hmem with hold | rfl
    · exact hlisted (.inl (h.grouped ref hold))
    · exact hlisted (.inr rfl)
  · intro ref hmem
    rcases mem_unassigned_insertTask hmem with hold | hadded
    · exact (h.unassigned ref hold).imp_right fun hlisted' => hlisted (.inl hlisted')
    · exact .inr (hlisted (.inr hadded))

theorem insertAll (h : doc.Closed stray) (tasks : List Task) :
    (doc.insertAll tasks).Closed stray := by
  have hfold : (tasks.foldl Document.insertTask doc).Closed stray := by
    induction tasks generalizing doc with
    | nil => exact h
    | cons task rest ih => exact ih (h.insertTask task)
  unfold Document.insertAll
  split
  next => exact h
  next => exact ⟨hfold.grouped, hfold.unassigned⟩

theorem extraSynthesized (h : doc.Closed stray) (now : Instant) (services : Nat) :
    (doc.extraSynthesized now services).Closed stray := by
  unfold Document.extraSynthesized
  split
  next => exact h
  next => exact h.insertAll _

/-- What joins the tasks from a reference is one of those that went astray. -/
theorem origin_of_mem_unlistedTasks (h : doc.Closed stray) {task : Task}
    (hmem : task ∈ doc.unlistedTasks) :
    ∃ ref ∈ stray, ref.id ≠ "" ∧ ref.id ∉ doc.taskIds ∧ task = Task.ofRef ref none none := by
  have hnew := doc.newTasks_unlistedTasks.unlisted task hmem
  have hne := (id_of_mem_firstUnknown hmem).1
  have hheld : ∀ {held : Option Grouping} {key : String} {refs : List TaskRef} {ref : TaskRef},
      (key, refs) ∈ (held.getD ∅).entries → ref ∈ refs → ref ∈ (held.getD ∅).refs :=
    fun hentry href => List.mem_flatten.2 ⟨_, List.mem_map.2 ⟨_, hentry, rfl⟩, href⟩
  have hreferenced := (firstUnknown_sublist _ _).subset hmem
  simp only [referencedTasks, List.mem_append, List.mem_flatMap, List.mem_map] at hreferenced
  rcases hreferenced with (⟨node, hnode, ⟨key, refs⟩, hentry, ref, href, rfl⟩ | ⟨ref, href, rfl⟩) |
    ⟨⟨service, held⟩, hgrouping, ⟨key, refs⟩, hentry, ref, href, rfl⟩
  · refine absurd (h.grouped ref ?_) hnew
    exact List.mem_flatMap.2
      ⟨(node.id, node.tasks), List.mem_append_left _ (List.mem_map_of_mem hnode), hheld hentry href⟩
  · rcases h.unassigned ref href with hstray | hlisted
    · exact ⟨ref, hstray, hne, hnew, rfl⟩
    · exact absurd hlisted hnew
  · refine absurd (h.grouped ref ?_) hnew
    exact List.mem_flatMap.2
      ⟨(service, held), List.mem_append_right _ hgrouping, hheld hentry href⟩

end Closed

section Support

variable {doc : Document}

theorem supports_syntheticTask {i : Nat} (hservice : Synthetic.serviceId i ∈ doc.serviceIds)
    (now : Instant) (turn : Nat) (place : Option Placement)
    (hplace : ∀ placement ∈ place, placement ∈ doc.placements) :
    doc.Supports (doc.syntheticTask now i turn place) where
  service := ⟨_, hservice, Synthetic.serviceId_ne_empty i, congrArg some (doc.id_owner i)⟩
  node := by
    intro id hnode
    obtain ⟨placement, hgiven, rfl⟩ := Option.map_eq_some_iff.1 hnode
    obtain ⟨node, hkept, rfl⟩ := List.mem_map.1 (hplace placement hgiven)
    obtain ⟨hroster, hne⟩ := List.mem_filter.1 hkept
    have hlisted : node ∈ doc.allNodes := by
      unfold roster at hroster
      split at hroster
      · simp [allNodes, hroster]
      · simp [allNodes, hroster]
    exact ⟨List.mem_map_of_mem hlisted, by simpa using hne⟩

theorem supports_rotatedTask {number : Nat × Nat}
    (hservice : Synthetic.serviceId number.1 ∈ doc.serviceIds) (now : Instant) :
    doc.Supports (doc.rotatedTask now number) := by
  let places := doc.placements
  have hplain := supports_syntheticTask hservice now (number.1 + number.2)
    places[(number.1 + number.2) % places.length]? fun _ => List.mem_of_getElem?
  exact ⟨hplain.service, hplain.node⟩

theorem supports_extraTask {i : Nat} (hservice : Synthetic.serviceId i ∈ doc.serviceIds)
    (now : Instant) {first : Placement} (hfirst : first ∈ doc.placements) :
    doc.Supports (doc.extraTask now first i) := by
  have hplain := supports_syntheticTask hservice now (i + 2) (some first) fun placement hgiven =>
    Option.some.inj hgiven ▸ hfirst
  exact ⟨hplain.service, hplain.node⟩

def AllSupported (doc : Document) : Prop := ∀ task ∈ doc.tasks, doc.Supports task

variable (h : doc.AllSupported)

include h

theorem AllSupported.insertAll {tasks : List Task} (hnew : ∀ task ∈ tasks, doc.Supports task) :
    (doc.insertAll tasks).AllSupported := by
  intro task hmem
  rw [tasks_insertAll, List.mem_append] at hmem
  have hsupports : doc.Supports task := hmem.elim (h task) (hnew task)
  exact hsupports.of_sameListings (sameListings_insertAll tasks doc)

theorem AllSupported.ensured (now : Instant) (count : Nat) :
    (doc.ensured now count).AllSupported := by
  intro task hmem
  rw [tasks_ensured] at hmem
  apply (h task hmem).mono
  · obtain ⟨grown, hgrown, hgrows⟩ := serviceIdsKept_ensured now count doc 0 _ rfl
    cases hgrown
    exact hgrows.subset
  · rw [← flatten_nodeListings, ← nodeListings_ensured now count, flatten_nodeListings]
    exact List.Subset.refl _

variable {services : Nat}
  (hservices : ∀ i ∈ List.range' 1 services, Synthetic.serviceId i ∈ doc.serviceIds)

include hservices

theorem AllSupported.synthesized (now : Instant) : (doc.synthesized now services).AllSupported := by
  refine h.insertAll fun task hmem => ?_
  obtain ⟨number, hnumber, rfl⟩ := List.mem_map.1 hmem
  obtain ⟨i, hi, hturns⟩ := List.mem_flatMap.1 (mem_missingTasks.1 hnumber).1
  obtain ⟨_, _, rfl⟩ := List.mem_map.1 hturns
  apply supports_rotatedTask
  exact hservices i hi

theorem AllSupported.extraSynthesized (now : Instant) :
    (doc.extraSynthesized now services).AllSupported := by
  unfold Document.extraSynthesized
  split
  next => exact h
  next first hfirst =>
    refine h.insertAll fun task hmem => ?_
    obtain ⟨i, hi, rfl⟩ := List.mem_map.1 hmem
    exact supports_extraTask (hservices i (mem_missingExtras.1 hi).1) now
      (List.mem_of_mem_head? hfirst)

end Support

end Document

theorem Settings.limits_of_check {settings : Settings} (h : settings.check = .ok ()) :
    settings.synthesis.serviceCount ≤ Synthetic.maxServiceCount ∧
      settings.synthesis.taskServices ≤ settings.synthesis.serviceCount := by
  simp only [check] at h
  split at h
  next => cases h
  next hcount =>
    split at h
    next => cases h
    next htasks => exact ⟨Nat.le_of_not_gt hcount, Nat.le_of_not_gt htasks⟩

section Fill

variable (settings : Settings) (now : Instant) {doc : Document}

/-- The limits of the settings see to it that every service that gets tasks was ensured before. -/
theorem Document.AllSupported.effect_fill (h : doc.AllSupported)
    (hsettings : settings.check = .ok ()) :
    (Plan.fill.effect settings now doc).AllSupported := by
  let services := settings.synthesis.taskServices
  let ensured := doc.ensured now settings.synthesis.serviceCount
  let listed := ensured.synthesized now services
  obtain ⟨hcount, hservices⟩ := settings.limits_of_check hsettings
  have hensured : ∀ i ∈ List.range' 1 services, Synthetic.serviceId i ∈ ensured.serviceIds := by
    intro i hi
    have hbounds := List.mem_range'_1.1 hi
    apply ensured_ensured now settings.synthesis.serviceCount doc i
    rw [Nat.min_eq_left hcount]
    exact List.mem_range'_1.2 ⟨hbounds.1, by omega⟩
  have hlisted : ∀ i ∈ List.range' 1 services, Synthetic.serviceId i ∈ listed.serviceIds := by
    intro i hi
    rw [sameListings_synthesized.serviceIds_eq]
    exact hensured i hi
  exact ((h.ensured now _).synthesized hensured now).extraSynthesized hlisted now

theorem Document.Closed.effect_fill {stray : List TaskRef} (h : doc.Closed stray) :
    (Plan.fill.effect settings now doc).Closed stray :=
  ((h.ensured now _).insertAll _).extraSynthesized now _

end Fill

/-- What is synthesised under settings that pass the check, from a document whose tasks are
supported and whose groupings hold no reference to any other task: every reference belongs to a
task, and the service of every task and its node, if it has one, are found.  Only a task that was
known from the references without a node alone may be an exception, for it has the service and the
node that its reference names. -/
theorem synthesis_closes_references (settings : Settings) (hsettings : settings.check = .ok ())
    (now : Instant) (source : String) (doc : Document)
    (htasks : ∀ task ∈ doc.tasks, doc.Supports task)
    (hrefs : ∀ ref ∈ doc.groupedRefs, ref.id ∈ doc.taskIds) :
    let reached := (Plan.synthesis.run settings now (Store.of source doc)).1
    (∀ task ∈ reached.doc.tasks, reached.Resolves task ∨
      ∃ ref ∈ doc.horizontal.unassigned, ref.id ≠ "" ∧ ref.id ∉ doc.taskIds ∧
        task = Task.ofRef ref none none) ∧
    ∀ ref ∈ reached.doc.groupedRefs ++ reached.doc.horizontal.unassigned,
      ref.id ∈ reached.doc.taskIds := by
  intro reached
  let filled := Plan.fill.effect settings now doc
  have hreached : reached = Store.of source filled.sync :=
    Plan.fst_run_of settings now Plan.synthesis source doc
  have hsupported : filled.AllSupported :=
    Document.AllSupported.effect_fill settings now htasks hsettings
  have hclosed : filled.Closed doc.horizontal.unassigned := by
    have hdoc : doc.Closed doc.horizontal.unassigned := ⟨hrefs, fun _ hmem => .inl hmem⟩
    exact hdoc.effect_fill settings now
  rw [hreached]
  constructor
  · intro task hmem
    rcases List.mem_append.1 hmem with hlisted | hunlisted
    · left
      exact ((hsupported task hlisted).of_sameListings (sameListings_sync filled)).resolves source
    · right
      obtain ⟨ref, href, hne, hnew, heq⟩ := hclosed.origin_of_mem_unlistedTasks hunlisted
      exact ⟨ref, href, hne, fun hold => hnew (Plan.taskIds_subset_effect settings now _ doc hold),
        heq⟩
  · intro ref hmem
    apply (synced_sync filled).id_mem_taskIds
    simp only [filedRefs, List.mem_append, List.mem_flatMap]
    rcases List.mem_append.1 hmem with hgrouped | hunassigned
    · rcases mem_groupedRefs.1 hgrouped with hnode | hservice
      · exact .inl (.inl hnode)
      · exact .inr hservice
    · exact .inl (.inr hunassigned)

/-- A task on a node, filed there, and a reference to it that has no node. -/
def servedTask : Document where
  nodes := [{ id := "n", tasks := some (Grouping.file ∅ "s" { id := "t" }) }]
  services := [{ id := "s" }]
  tasks := [{ id := "t", serviceId := some "s", nodeId := some "n" }]
  horizontal := { unassigned := [{ id := "t" }] }

theorem synthesis_closes_servedTask :
    Settings.standard.check = .ok () ∧ (∀ task ∈ servedTask.tasks, servedTask.Supports task) ∧
      (∀ ref ∈ servedTask.groupedRefs, ref.id ∈ servedTask.taskIds) ∧
      let reached := (Plan.synthesis.run .standard ⟨0, 0⟩ (Store.of "doc.json" servedTask)).1
      (∀ task ∈ reached.doc.tasks, reached.Resolves task) ∧
        ∀ ref ∈ reached.doc.groupedRefs ++ reached.doc.horizontal.unassigned,
          ref.id ∈ reached.doc.taskIds := by
  have hsettings : Settings.standard.check = .ok () := by decide
  have htasks : ∀ task ∈ servedTask.tasks, servedTask.Supports task := by
    intro task hmem
    cases List.mem_singleton.1 hmem
    exact ⟨⟨"s", by decide, by decide, rfl⟩, fun id hnode => by cases hnode; decide⟩
  have hrefs : ∀ ref ∈ servedTask.groupedRefs, ref.id ∈ servedTask.taskIds := by decide
  obtain ⟨hresolved, hlisted⟩ := synthesis_closes_references .standard hsettings ⟨0, 0⟩ "doc.json"
    servedTask htasks hrefs
  refine ⟨hsettings, htasks, hrefs, fun task hmem => ?_, hlisted⟩
  refine (hresolved task hmem).resolve_right ?_
  rintro ⟨ref, href, _, hnew, _⟩
  cases List.mem_singleton.1 href
  exact hnew (by decide)

/-- A reference that names neither a node nor a service, to a task that is not listed. -/
def unservedRef : Document where
  horizontal := { unassigned := [{ id := "t" }] }

/-- The reference becomes a task without a service. -/
theorem synthesis_lists_unserved_task :
    (Settings.servicesOnly 0).check = .ok () ∧
      (∀ task ∈ unservedRef.tasks, unservedRef.Supports task) ∧
      (∀ ref ∈ unservedRef.groupedRefs, ref.id ∈ unservedRef.taskIds) ∧
      let reached := (Plan.synthesis.run (.servicesOnly 0) ⟨0, 0⟩
        (Store.of "doc.json" unservedRef)).1
      ∃ task ∈ reached.doc.tasks, task.id = "t" ∧ task.serviceId = none ∧
        ¬ reached.Resolves task := by
  refine ⟨by decide, fun _ hmem => (List.not_mem_nil hmem).elim, by decide, ?_⟩
  intro reached
  have hfill : Plan.fill.effect (.servicesOnly 0) ⟨0, 0⟩ unservedRef = unservedRef := by
    apply Plan.effect_eq_self
    intro stage hmem
    refine Stage.effect_eq_self rfl (fun _ => ensured_zero _) (fun heq => ?_) (fun heq => ?_)
      (fun heq => ?_) _ <;> exact absurd (heq ▸ hmem) (by decide)
  have hreached : reached = Store.of "doc.json" unservedRef.sync := by
    change (Plan.run _ _ _ _).1 = _
    rw [Plan.fst_run_of]
    change Store.of "doc.json" (Plan.fill.effect (.servicesOnly 0) ⟨0, 0⟩ unservedRef).sync = _
    rw [hfill]
  have hreferenced : unservedRef.referencedTasks = [Task.ofRef { id := "t" } none none] := rfl
  have hunlisted : "t" ∈ unservedRef.unlistedTasks.map Task.id := by
    refine (known_or_firstUnknown (IdSet.ofList []) (hreferenced ▸ List.mem_singleton_self _)
      (by decide)).resolve_left fun hknown => ?_
    exact List.not_mem_nil (IdSet.mem_toList_ofList.1 hknown).1
  obtain ⟨task, hmem, hid⟩ := List.mem_map.1 hunlisted
  have htask := (firstUnknown_sublist _ _).subset hmem
  rw [hreferenced, List.mem_singleton] at htask
  subst htask
  rw [hreached]
  refine ⟨_, List.mem_append_right _ hmem, rfl, rfl, fun hresolves => ?_⟩
  obtain ⟨_, hservice, _⟩ := hresolves.service
  cases hservice

end MockCluster
