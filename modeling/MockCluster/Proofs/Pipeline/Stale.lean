import MockCluster.Proofs.Pipeline.UpToDate

/-!
Documents whose views are put out of date: one for the first renaming of duplicates, one for the
first ensuring of services, and for every number of repairs one that all of them find work in.
-/

namespace MockCluster

open Document

theorem Stage.effect_eq_self {settings : Settings} {stage : Stage} {doc : Document}
    (hservices : settings.synthesis.taskServices = 0)
    (hensure : stage = .ensureServices → doc.Ensured settings.synthesis.serviceCount)
    (hrepair : stage = .repairReferences → doc.Settled settings.repair)
    (hdedupe : stage = .dedupeTasks → doc.DistinctTasks)
    (hsync : stage = .syncViews → doc.Synced) (now : Instant) :
    stage.effect settings now doc = doc := by
  cases stage with
  | ensureServices => exact ensured_of_ensured (hensure rfl)
  | synthesizeTasks =>
      apply synthesized_of_hasSynthetic
      rw [hservices]
      intro number hnumber
      cases hnumber
  | synthesizeExtraTasks =>
      apply extraSynthesized_of_hasExtras
      intro _
      rw [hservices]
      intro i hi
      cases hi
  | repairReferences => exact (hrepair rfl).repaired_eq
  | dedupeTasks => exact deduped_of_distinctTasks (hdedupe rfl)
  | syncViews => exact (hsync rfl).sync_eq

theorem Plan.effect_eq_self {settings : Settings} {now : Instant} {plan : Plan} {doc : Document}
    (h : ∀ stage ∈ plan, stage.effect settings now doc = doc) :
    plan.effect settings now doc = doc := by
  induction plan with
  | nil => rfl
  | cons stage rest ih =>
      change Plan.effect settings now rest (stage.effect settings now doc) = doc
      rw [h stage List.mem_cons_self]
      exact ih fun other hmem => h other (List.mem_cons_of_mem _ hmem)

/-- A plan in which one stage puts a document out of date that all stages before it have left as it
is, and all stages behind it leave what has become of it. -/
theorem Plan.not_synced_effect {settings : Settings} {now : Instant} {before after : Plan}
    {stage : Stage} {doc : Document}
    (hbefore : ∀ earlier ∈ before, earlier.effect settings now doc = doc)
    (hafter : ∀ later ∈ after, later.effect settings now (stage.effect settings now doc) =
      stage.effect settings now doc)
    (hstale : ¬ (stage.effect settings now doc).Synced) :
    ¬ (Plan.effect settings now (before ++ stage :: after) doc).Synced := by
  rw [effect_append, effect_eq_self hbefore]
  change ¬ (Plan.effect settings now after (stage.effect settings now doc)).Synced
  rwa [effect_eq_self hafter]

/-- Settings under which nothing is synthesised but services. -/
def Settings.servicesOnly (count : Nat) : Settings where
  synthesis := { serviceCount := count, taskServices := 0 }

theorem ensured_zero (doc : Document) : doc.Ensured 0 := by
  intro i hi
  cases hi

section Twins

def twin : Task where
  id := "t"
  slot := some 1

def twins : Document where
  tasks := [twin, twin]
  timeline := projectTimeline [twin, twin]

theorem synced_twins : twins.Synced where
  refsListed _ hmem := absurd hmem List.not_mem_nil
  nodes _ hmem := absurd hmem List.not_mem_nil
  services _ hmem := absurd hmem List.not_mem_nil
  unassigned := rfl
  timeline := rfl

theorem tasks_deduped_twins :
    ∃ id, id ≠ "t" ∧ twins.deduped.tasks = [twin, { twin with id := id }] := by
  have htaken : "t" ∈ (IdSet.ofList twins.taskIds).toList :=
    IdSet.mem_toList_ofList.2 ⟨List.mem_cons_self, by decide⟩
  refine ⟨Duplicates.later (Duplicates.seen ∅ twin) (IdSet.ofList twins.taskIds) twin, ?_, ?_⟩
  · exact fun heq => Duplicates.later_not_mem _ _ twin (heq.symm ▸ htaken)
  · have hsecond : (Duplicates.seen ∅ twin).getD twin.id 0 ≠ 0 := by
      rw [Duplicates.getD_seen, if_pos rfl]
      exact Nat.succ_ne_zero _
    change (Duplicates.resolve ∅ (IdSet.ofList twins.taskIds) [twin, twin]).1 = _
    rw [Duplicates.resolve_cons_first rfl Std.HashMap.getD_empty,
      Duplicates.resolve_cons_later rfl hsecond]
    rfl

theorem not_synced_deduped_twins : ¬ twins.deduped.Synced := by
  intro hsynced
  obtain ⟨id, hne, htasks⟩ := tasks_deduped_twins
  have htimeline := congrArg (List.map TimelineEntry.id) hsynced.timeline
  rw [htasks] at htimeline
  have hids : ["t", "t"] = ["t", id] := htimeline
  exact hne (List.cons.inj (List.cons.inj hids).2).1.symm

theorem not_synced_effect_twins (now : Instant) {before after : Plan}
    (hbefore : .dedupeTasks ∉ before) (hafter : .syncViews ∉ after) :
    ¬ (Plan.effect (.servicesOnly 0) now (before ++ .dedupeTasks :: after) twins).Synced := by
  refine Plan.not_synced_effect (fun stage hmem => ?_) (fun stage hmem => ?_)
    not_synced_deduped_twins
  · refine Stage.effect_eq_self rfl (fun _ => ensured_zero _)
      (fun _ => settled_of_nil _ rfl rfl rfl) (fun heq => ?_) (fun _ => synced_twins) now
    exact absurd (heq ▸ hmem) hbefore
  · refine Stage.effect_eq_self rfl (fun _ => ensured_zero _)
      (fun _ => settled_of_nil _ rfl rfl rfl) (fun _ => distinctTasks_deduped _) (fun heq => ?_) now
    exact absurd (heq ▸ hmem) hafter

end Twins

section Orphan

def orphan : Task where
  id := "t"
  serviceId := some (Synthetic.serviceId 1)

def unserved : Document where
  tasks := [orphan]
  horizontal := { unassigned := [orphan.unassignedRef] }
  timeline := projectTimeline [orphan]

theorem refsListed_unserved : unserved.RefsListed := by
  have hrefs : unserved.filedRefs = [orphan.unassignedRef] := rfl
  intro ref hmem _
  rw [hrefs, List.mem_singleton] at hmem
  exact hmem ▸ List.mem_singleton_self _

theorem synced_unserved : unserved.Synced where
  refsListed := refsListed_unserved
  nodes _ hmem := absurd hmem List.not_mem_nil
  services _ hmem := absurd hmem List.not_mem_nil
  unassigned := by decide
  timeline := rfl

theorem ensured_unserved (now : Instant) :
    unserved.ensured now 1 =
      { unserved with
        services := [Synthetic.service 1]
        ports := [Synthetic.portEntry 1]
        horizontal := { unserved.horizontal with services := [Synthetic.horizontalSummary 1] }
        vertical := { services := [Synthetic.verticalSummary 1] }
        logServices := [Synthetic.logService 1]
        stackRecords := [{
          name := Synthetic.stackName 1
          services := [Synthetic.stackService (now.timestamp 0) 1] }] } := by
  have hmissing : unserved.missingServices 1 = [1] := by
    have hunknown : (Store.of "" unserved).contains .service (Synthetic.serviceId 1) = false := by
      rw [Bool.eq_false_iff, ne_eq, Store.contains_service_of]
      exact fun hknown => absurd hknown.1 List.not_mem_nil
    have hnumbers : List.range' 1 (min 1 Synthetic.maxServiceCount) = [1] := by decide
    rw [missingServices, Store.missingSynthetic, hnumbers, List.filter_eq_self]
    intro i hi
    cases List.mem_singleton.1 hi
    simp [hunknown]
  have habsent : Synthetic.absent [] [1] = [1] := by
    have hunknown : (IdSet.ofList []).contains (Synthetic.serviceId 1) = false := by
      rw [Bool.eq_false_iff, ne_eq, IdSet.contains_iff]
      exact List.not_mem_nil
    simp [Synthetic.absent, hunknown]
  rw [ensured, hmissing, if_neg (by decide)]
  change ({ unserved with
    services := [Synthetic.service 1]
    ports := (Synthetic.absent [] [1]).map Synthetic.portEntry
    horizontal :=
      { unserved.horizontal with
        services := (Synthetic.absent [] [1]).map Synthetic.horizontalSummary }
    vertical := { services := (Synthetic.absent [] [1]).map Synthetic.verticalSummary }
    logServices := (Synthetic.absent [] [1]).map Synthetic.logService
    stackRecords := _ } : Document) = _
  rw [habsent]
  rfl

theorem settled_unserved (settings : RepairSettings) : unserved.Settled settings := by
  have hlisted : unserved.listedServiceIds = [] := rfl
  have hnodes : unserved.nodeIds = [] := rfl
  refine ⟨refsListed_unserved, fun _ => unrecorded_eq_nil_iff.2 ?_, (renames_eq_nil_iff _).2 ?_⟩
  · simp [hlisted]
  · simp [hnodes]

theorem settled_ensured_unserved (settings : RepairSettings) (now : Instant) :
    (unserved.ensured now 1).Settled settings := by
  rw [ensured_unserved]
  refine ⟨?_, fun _ => unrecorded_eq_nil_iff.2 ?_, (renames_eq_nil_iff _).2 ?_⟩
  · intro ref hmem hne
    exact refsListed_unserved ref hmem hne
  · intro id hmem _
    have hlisted : id ∈ List.replicate 5 (Synthetic.serviceId 1) := hmem
    exact List.mem_singleton.2 (List.eq_of_mem_replicate hlisted)
  · intro id hmem
    cases hmem

/-- The vertical dashboard gives the new service an empty grouping, as if it had no tasks. -/
theorem not_synced_ensured_unserved (now : Instant) : ¬ (unserved.ensured now 1).Synced := by
  intro hsynced
  rw [ensured_unserved] at hsynced
  have hholder := hsynced.services (Holder.ofSummary true (Synthetic.verticalSummary 1))
    (List.mem_append_right _ (List.mem_singleton_self _))
  have hrefiled : Grouping.refile true
      ((projectServices [orphan]).of (Synthetic.serviceId 1)) (some ∅) = some ∅ :=
    congrArg Holder.held hholder
  rw [Grouping.refile_eq (projected_projectServices _ _)] at hrefiled
  have hkeys := congrArg OrderedMap.keys (Option.some.inj hrefiled)
  rw [Grouping.inherit, OrderedMap.keys_map] at hkeys
  have hkey : Grouping.unassignedKey ∈
      ((projectServices [orphan]).of (Synthetic.serviceId 1)).keys :=
    Groupings.mem_keys_of_project.2 ⟨orphan, List.mem_singleton_self _, rfl⟩
  rw [hkeys] at hkey
  cases hkey

theorem not_synced_effect_unserved (now : Instant) {before after : Plan}
    (hbefore : .ensureServices ∉ before) (hafter : .syncViews ∉ after) :
    ¬ (Plan.effect (.servicesOnly 1) now (before ++ .ensureServices :: after) unserved).Synced := by
  have hdistinct : unserved.DistinctTasks := by
    change ["t"].Nodup
    decide
  refine Plan.not_synced_effect (fun stage hmem => ?_) (fun stage hmem => ?_)
    (not_synced_ensured_unserved now)
  · refine Stage.effect_eq_self rfl (fun heq => ?_) (fun _ => settled_unserved _)
      (fun _ => hdistinct) (fun _ => synced_unserved) now
    exact absurd (heq ▸ hmem) hbefore
  · refine Stage.effect_eq_self rfl (fun _ => ensured_ensured now 1 unserved)
      (fun _ => settled_ensured_unserved _ now) (fun _ => ?_) (fun heq => ?_) now
    · exact Stage.distinctTasks_effect (.servicesOnly 1) now .ensureServices hdistinct
    · exact absurd (heq ▸ hmem) hafter

end Orphan

end MockCluster
