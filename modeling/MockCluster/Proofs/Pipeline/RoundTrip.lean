import MockCluster.Proofs.Pipeline.Effect
import MockCluster.Proofs.Repair.Fits
import MockCluster.Proofs.WriteBack

/-!
What is saved is loaded again: every stage keeps a document fit to be stored, so the text of a
document that the pipeline has worked on is parsed to that document and passes the check of the
write-back.
-/

namespace MockCluster

open Json (freeMembers_nil)

namespace Synthetic

variable {depth : Nat}

theorem portNumber_lt (i : Nat) : ∀ port ∈ portNumber? i, port < twoTo 32 := by
  intro port hport
  unfold portNumber? at hport
  split at hport
  next hle =>
    cases hport
    exact Nat.lt_of_le_of_lt hle (by decide)
  next => cases hport

theorem fits_portSpec (i : Nat) : (portSpec i).Fits depth where
  targetPort := portNumber_lt i
  publishedPort := portNumber_lt i
  untyped := freeMembers_nil

theorem fits_service (i : Nat) : (service i).Fits 2 where
  spec := by
    intro spec hspec
    cases hspec
    exact ⟨Service.fits_stackLabels (some (stackName i)), freeMembers_nil⟩
  endpoint := by
    intro endpoint hendpoint
    cases hendpoint
    have hports : ∀ {depth : Nat}, ∀ port ∈ [portSpec i], port.Fits depth :=
      List.forall_mem_singleton.2 (fits_portSpec i)
    refine ⟨hports, ?_, freeMembers_nil⟩
    intro spec hspec
    cases hspec
    exact ⟨hports, freeMembers_nil⟩
  tasks := by
    intro grouping hgrouping
    cases hgrouping
  untyped := by
    have hindex : Json.Number.Whole (.integer 1) := by decide
    exact
      { nodup := List.nodup_singleton _
        free := List.forall_mem_singleton.2 (by decide)
        fits := List.forall_mem_singleton.2
          ⟨by decide, List.nodup_singleton _, hindex, trivial⟩ }

theorem fits_summary (i : Nat) :
    (horizontalSummary i).Fits depth ∧ (verticalSummary i).Fits depth := by
  refine ⟨⟨?_, freeMembers_nil⟩, ⟨?_, freeMembers_nil⟩⟩
  · intro grouping hgrouping
    cases hgrouping
  · intro grouping hgrouping
    cases hgrouping
    exact Grouping.fits_empty

theorem fits_enterStack (name : String) {entry : StackService} (hentry : entry.Fits (depth + 2))
    {stackRecords : List Stack} (h : ∀ stack ∈ stackRecords, stack.Fits depth) :
    ∀ stack ∈ enterStack name entry stackRecords, stack.Fits depth := by
  induction stackRecords with
  | nil => exact List.forall_mem_singleton.2 ⟨List.forall_mem_singleton.2 hentry, freeMembers_nil⟩
  | cons stack rest ih =>
      obtain ⟨hstack, hrest⟩ := List.forall_mem_cons.1 h
      rw [enterStack]
      split
      · split
        · exact h
        · have hservices := List.forall_mem_append.2
            ⟨hstack.services, List.forall_mem_singleton.2 hentry⟩
          exact List.forall_mem_cons.2 ⟨{ hstack with services := hservices }, hrest⟩
      · exact List.forall_mem_cons.2 ⟨hstack, ih hrest⟩

end Synthetic

namespace Document.Fits

variable {doc : Document}

theorem addSynthetic (h : doc.Fits) (now : Instant) (numbers : List Nat) :
    (doc.addSynthetic now numbers).Fits where
  nodes := h.nodes
  services := List.forall_mem_append.2
    ⟨h.services, List.forall_mem_map.2 fun i _ => Synthetic.fits_service i⟩
  tasks := h.tasks
  stackRecords := by
    have hentered : ∀ stackRecords : List Stack, (∀ stack ∈ stackRecords, stack.Fits 2) →
        ∀ stack ∈ numbers.foldl (fun stackRecords i =>
          Synthetic.enterStack (Synthetic.stackName i)
            (Synthetic.stackService (now.timestamp 0) i) stackRecords) stackRecords,
          stack.Fits 2 := by
      induction numbers with
      | nil => exact fun _ h => h
      | cons i rest ih =>
          exact fun stackRecords h => ih _ (Synthetic.fits_enterStack _ ⟨freeMembers_nil⟩ h)
    exact hentered doc.stackRecords h.stackRecords
  horizontal :=
    { h.horizontal with
      services := List.forall_mem_append.2
        ⟨h.horizontal.services, List.forall_mem_map.2 fun i _ => (Synthetic.fits_summary i).1⟩ }
  vertical :=
    { h.vertical with
      services := List.forall_mem_append.2
        ⟨h.vertical.services, List.forall_mem_map.2 fun i _ => (Synthetic.fits_summary i).2⟩ }
  logServices := List.forall_mem_append.2
    ⟨h.logServices, List.forall_mem_map.2 fun _ _ => ⟨freeMembers_nil⟩⟩
  timeline := h.timeline
  ports := List.forall_mem_append.2
    ⟨h.ports, List.forall_mem_map.2 fun i _ =>
      ⟨Synthetic.portNumber_lt i, Synthetic.portNumber_lt i, freeMembers_nil⟩⟩
  untyped := h.untyped

theorem ensured (h : doc.Fits) (now : Instant) (count : Nat) : (doc.ensured now count).Fits := by
  rw [ensured_eq]
  exact h.addSynthetic now _

theorem fits_syntheticTask {now : Instant} {i turn slot : Nat} {place : Option Placement}
    (hslot : slot < twoTo 64) (id : String) (createdAt updatedAt : Option String) :
    Task.Fits 2
      { doc.syntheticTask now i turn place with
        id := id, createdAt := createdAt, updatedAt := updatedAt, slot := some slot } where
  slot := by
    intro other hother
    cases hother
    exact hslot
  status := by
    intro status hstatus
    cases hstatus
  untyped := freeMembers_nil

theorem synthesized (h : doc.Fits) (now : Instant) (services : Nat) :
    (doc.synthesized now services).Fits := by
  refine h.insertAll (List.forall_mem_map.2 ?_)
  rintro ⟨i, j⟩ hmem
  have hnumber := (mem_missingTasks.1 hmem).1
  simp only [Synthetic.taskNumbers, List.mem_flatMap, List.mem_map, List.mem_range,
    Prod.mk.injEq] at hnumber
  obtain ⟨_, _, _, hlt, _, rfl⟩ := hnumber
  have hlimit : 4 ≤ twoTo 64 := by decide
  exact fits_syntheticTask (by omega) _ _ _

theorem extraSynthesized (h : doc.Fits) (now : Instant) (services : Nat) :
    (doc.extraSynthesized now services).Fits := by
  unfold Document.extraSynthesized
  split
  · exact h
  · exact h.insertAll (List.forall_mem_map.2 fun i _ => fits_syntheticTask (by decide) _ _ _)

end Document.Fits

theorem Stage.fits_effect (stage : Stage) (settings : Settings) (now : Instant) {doc : Document}
    (h : doc.Fits) : (stage.effect settings now doc).Fits := by
  cases stage with
  | ensureServices => exact h.ensured now _
  | synthesizeTasks => exact h.synthesized now _
  | synthesizeExtraTasks => exact h.extraSynthesized now _
  | repairReferences => exact h.repaired _
  | dedupeTasks => exact h.deduped
  | syncViews => exact h.sync

theorem Plan.fits_effect (plan : Plan) (settings : Settings) (now : Instant) {doc : Document}
    (h : doc.Fits) : (plan.effect settings now doc).Fits :=
  plan.rel_effect settings now (r := fun first second => first.Fits → second.Fits)
    (fun _ h => h) (fun h h' hfits => h' (h hfits))
    (fun stage _ => stage.fits_effect settings now) doc h

namespace Store

/-- Plans that are run on a store one after another, each with its settings and at its time. -/
def runAll (store : Store) (runs : List (Plan × Settings × Instant)) : Store :=
  runs.foldl (fun store run => (run.1.run run.2.1 run.2.2 store).1) store

theorem exists_runAll_of (source : String) {doc : Document} (h : doc.Fits)
    (runs : List (Plan × Settings × Instant)) :
    ∃ last : Document, last.Fits ∧ (of source doc).runAll runs = of source last := by
  induction runs generalizing doc with
  | nil => exact ⟨doc, h, rfl⟩
  | cons run rest ih =>
      obtain ⟨plan, settings, now⟩ := run
      obtain ⟨last, hlast, hrest⟩ := ih (plan.fits_effect settings now h)
      refine ⟨last, hlast, ?_⟩
      rw [← hrest, ← Plan.fst_run_of]
      rfl

end Store

/-- A document that was loaded and has gone through any stages is saved without loss: its text is
parsed to the document itself, so saving it again writes the same text, and the write-back does not
refuse what it reads back.

The numbers of untyped data are integers of a machine word; those of the fields are in any case. -/
theorem round_trip {source text : String} {store : Store}
    (hparse : Store.parse source text = .ok store)
    (hwhole : (Json.object store.doc.topLevel).Whole)
    (runs : List (Plan × Settings × Instant)) :
    let doc := (store.runAll runs).doc
    (∀ target, Store.parse target doc.text = .ok (Store.of target doc)) ∧
      (Document.parse doc.text).map Document.text = .ok doc.text ∧
      WriteBack.verifyBytes (.ofText doc.text) doc.text.toUTF8 = .ok () := by
  intro doc
  have hagain : Document.parse doc.text = .ok doc := by
    obtain ⟨loaded, hloaded, rfl⟩ := Store.exists_of_parse hparse
    obtain ⟨last, hlast, hruns⟩ :=
      Store.exists_runAll_of source (Document.fits_of_parse hloaded hwhole) runs
    have hdoc : doc = last := congrArg Store.doc hruns
    rw [hdoc]
    exact Document.parse_text hlast
  refine ⟨?_, ?_, ?_⟩
  · intro target
    rw [Store.parse, hagain]
  · rw [hagain]
    rfl
  · rw [WriteBack.verifyBytes_ofText, hagain]

/-- A node with untyped data that is deeper than its fields, and a key that needs escapes. -/
def labelled : Document where
  nodes :=
    [{ id := "n"
       tasks := some (OrderedMap.ofList [("s", [{ id := "t" }])])
       untyped := [("Rank", .number (.integer (-3))), ("Labels", .object [("a\"b", .null)])] }]

theorem round_trip_labelled :
    let text := "\x7b\"nodes\": [\x7b\"Rank\": -3, \"Labels\": \x7b\"a\\\"b\": null\x7d, " ++
      "\"Tasks\": \x7b\"s\": [\x7b\"ID\": \"t\"\x7d]\x7d, \"ID\": \"n\"\x7d]\x7d"
    let runs : List (Plan × Settings × Instant) := [(Plan.full, Settings.standard, ⟨0, 0⟩)]
    let doc := ((Store.of "data.json" labelled).runAll runs).doc
    Store.parse "data.json" text = .ok (Store.of "data.json" labelled) ∧
      (Json.object labelled.topLevel).Whole ∧
      (∀ target, Store.parse target doc.text = .ok (Store.of target doc)) ∧
      (Document.parse doc.text).map Document.text = .ok doc.text ∧
      WriteBack.verifyBytes (.ofText doc.text) doc.text.toUTF8 = .ok () := by
  intro text runs doc
  have hloaded : Document.parse text = .ok labelled := by decide +kernel
  have hparse : Store.parse "data.json" text = .ok (Store.of "data.json" labelled) := by
    rw [Store.parse, hloaded]
  have hwhole : (Json.object labelled.topLevel).Whole := by decide +kernel
  exact ⟨hparse, hwhole, round_trip hparse hwhole runs⟩

end MockCluster
