import MockCluster.Proofs.Document.Fits
import MockCluster.Proofs.Json.Shapes
import MockCluster.Store

/-!
What a document holds besides its fields survives being loaded and saved, in every record of it.

The exception is a grouping that gives a key again: the references of the earlier bucket are read,
and then replaced by those of the later one.
-/

namespace MockCluster

open Json (Codec CarriedOver Field Fields Hop NotRepeated Shape Tree at? scan)

theorem Json.Fields.Carries.plain {α β : Type} {first : Field α} {others : Fields β}
    {shapes : List (String × Shape)} (h : others.Carries shapes) :
    (Fields.field first others).Carries ((first.key, .plain) :: shapes) :=
  .field Field.carries_plain h

def TaskStatus.shape : Shape :=
  .record [("State", .plain), ("Err", .plain), ("Timestamp", .plain)]

theorem TaskStatus.carries : TaskStatus.codec.Carries TaskStatus.shape :=
  .imap (Codec.carries_openRecord (.plain <| .plain <| .plain .rest) (by decide)) fun _ => rfl

def Task.shape : Shape :=
  .record
    [("ID", .plain), ("ServiceID", .plain), ("ServiceName", .plain), ("Stack", .plain),
      ("NodeID", .plain), ("NodeName", .plain), ("State", .plain), ("Err", .plain),
      ("CreatedAt", .plain), ("UpdatedAt", .plain), ("DesiredState", .plain),
      ("Timestamp", .plain), ("Slot", .plain), ("Status", TaskStatus.shape)]

theorem Task.carries : Task.codec.Carries Task.shape :=
  .imap
    (Codec.carries_openRecord
      (.plain <| .plain <| .plain <| .plain <| .plain <| .plain <| .plain <| .plain <| .plain <|
        .plain <| .plain <| .plain <| .plain <|
        .field (Field.carries_optional TaskStatus.carries) .rest)
      (by decide))
    fun _ => rfl

def TaskRef.shape : Shape :=
  .record
    [("ID", .plain), ("Status", TaskStatus.shape), ("NodeID", .plain), ("NodeName", .plain),
      ("ServiceID", .plain), ("ServiceName", .plain), ("Stack", .plain), ("CreatedAt", .plain),
      ("UpdatedAt", .plain)]

theorem TaskRef.carries : TaskRef.codec.Carries TaskRef.shape :=
  .imap
    (Codec.carries_openRecord
      (.plain <| .field (Field.carries_optional TaskStatus.carries) <| .plain <| .plain <| .plain <|
        .plain <| .plain <| .plain <| .plain .rest)
      (by decide))
    fun _ => rfl

def Grouping.shape : Shape := .keyed (.list TaskRef.shape)

theorem Grouping.carries : Grouping.codec.Carries Grouping.shape :=
  .keyed (.list TaskRef.carries)

def Node.shape : Shape :=
  .record
    [("ID", .plain), ("Hostname", .plain), ("Name", .plain), ("Tasks", Grouping.shape)]

theorem Node.carries : Node.codec.Carries Node.shape :=
  .imap
    (Codec.carries_openRecord
      (.plain <| .plain <| .plain <| .field (Field.carries_optional Grouping.carries) .rest)
      (by decide))
    fun _ => rfl

def PortSpec.shape : Shape :=
  .record
    [("Protocol", .plain), ("TargetPort", .plain), ("PublishedPort", .plain),
      ("PublishMode", .plain)]

theorem PortSpec.carries : PortSpec.codec.Carries PortSpec.shape :=
  .imap (Codec.carries_openRecord (.plain <| .plain <| .plain <| .plain .rest) (by decide))
    fun _ => rfl

def EndpointSpec.shape : Shape := .record [("Ports", .list PortSpec.shape)]

theorem EndpointSpec.carries : EndpointSpec.codec.Carries EndpointSpec.shape :=
  .imap
    (Codec.carries_openRecord (.field (Field.carries_listUnlessEmpty PortSpec.carries) .rest)
      (by decide))
    fun _ => rfl

def Endpoint.shape : Shape :=
  .record [("Ports", .list PortSpec.shape), ("Spec", EndpointSpec.shape)]

theorem Endpoint.carries : Endpoint.codec.Carries Endpoint.shape :=
  .imap
    (Codec.carries_openRecord
      (.field (Field.carries_listUnlessEmpty PortSpec.carries) <|
        .field (Field.carries_optional EndpointSpec.carries) .rest)
      (by decide))
    fun _ => rfl

def ServiceSpec.shape : Shape := .record [("Name", .plain), ("Labels", .plain)]

theorem ServiceSpec.carries : ServiceSpec.codec.Carries ServiceSpec.shape :=
  .imap (Codec.carries_openRecord (.plain <| .plain .rest) (by decide)) fun _ => rfl

def Service.shape : Shape :=
  .record
    [("ID", .plain), ("Name", .plain), ("Stack", .plain), ("Replication", .plain),
      ("Spec", ServiceSpec.shape), ("Endpoint", Endpoint.shape), ("Tasks", Grouping.shape)]

theorem Service.carries : Service.codec.Carries Service.shape :=
  .imap
    (Codec.carries_openRecord
      (.plain <| .plain <| .plain <| .plain <|
        .field (Field.carries_optional ServiceSpec.carries) <|
        .field (Field.carries_optional Endpoint.carries) <|
        .field (Field.carries_optional Grouping.carries) .rest)
      (by decide))
    fun _ => rfl

def ServiceSummary.shape : Shape :=
  .record
    [("ID", .plain), ("Name", .plain), ("Stack", .plain), ("Replication", .plain),
      ("Tasks", Grouping.shape)]

theorem ServiceSummary.carries : ServiceSummary.codec.Carries ServiceSummary.shape :=
  .imap
    (Codec.carries_openRecord
      (.plain <| .plain <| .plain <| .plain <|
        .field (Field.carries_optional Grouping.carries) .rest)
      (by decide))
    fun _ => rfl

def LogService.shape : Shape := .record [("ID", .plain), ("Name", .plain)]

theorem LogService.carries : LogService.codec.Carries LogService.shape :=
  .imap (Codec.carries_openRecord (.plain <| .plain .rest) (by decide)) fun _ => rfl

def StackService.shape : Shape :=
  .record
    [("ID", .plain), ("ServiceName", .plain), ("ShortName", .plain), ("Replication", .plain),
      ("Created", .plain), ("Updated", .plain)]

theorem StackService.carries : StackService.codec.Carries StackService.shape :=
  .imap
    (Codec.carries_openRecord
      (.plain <| .plain <| .plain <| .plain <| .plain <| .plain .rest) (by decide))
    fun _ => rfl

def Stack.shape : Shape := .record [("Name", .plain), ("Services", .list StackService.shape)]

theorem Stack.carries : Stack.codec.Carries Stack.shape :=
  .imap
    (Codec.carries_openRecord
      (.plain <| .field (Field.carries_list StackService.carries) .rest) (by decide))
    fun _ => rfl

def PortEntry.shape : Shape :=
  .record
    [("PublishedPort", .plain), ("TargetPort", .plain), ("Protocol", .plain),
      ("PublishMode", .plain), ("ServiceName", .plain), ("ServiceID", .plain), ("Stack", .plain)]

theorem PortEntry.carries : PortEntry.codec.Carries PortEntry.shape :=
  .imap
    (Codec.carries_openRecord
      (.plain <| .plain <| .plain <| .plain <| .plain <| .plain <| .plain .rest) (by decide))
    fun _ => rfl

def HorizontalDashboard.shape : Shape :=
  .record
    [("Services", .list ServiceSummary.shape), ("Nodes", .list Node.shape),
      ("UnassignedTasks", .list TaskRef.shape)]

theorem HorizontalDashboard.carries :
    HorizontalDashboard.codec.Carries HorizontalDashboard.shape :=
  .imap
    (Codec.carries_openRecord
      (.field (Field.carries_list ServiceSummary.carries) <|
        .field (Field.carries_list Node.carries) <|
        .field (Field.carries_listUnlessEmpty TaskRef.carries) .rest)
      (by decide))
    fun _ => rfl

def VerticalDashboard.shape : Shape :=
  .record [("Services", .list ServiceSummary.shape), ("Nodes", .list Node.shape)]

theorem VerticalDashboard.carries : VerticalDashboard.codec.Carries VerticalDashboard.shape :=
  .imap
    (Codec.carries_openRecord
      (.field (Field.carries_list ServiceSummary.carries) <|
        .field (Field.carries_list Node.carries) .rest)
      (by decide))
    fun _ => rfl

/-- The timeline is made from the tasks and keeps nothing else. -/
def Document.shape : Shape :=
  .record
    [("nodes", .list Node.shape), ("services", .list Service.shape), ("tasks", .list Task.shape),
      ("stacks", .list Stack.shape), ("dashboardh", HorizontalDashboard.shape),
      ("dashboardv", VerticalDashboard.shape), ("ui.logs.services", .list LogService.shape),
      ("timeline", .plain), ("ports", .list PortEntry.shape)]

theorem Document.carries : Document.codec.Carries Document.shape :=
  .imap
    (Codec.carries_openRecord
      (.field (Field.carries_list Node.carries) <|
        .field (Field.carries_list Service.carries) <|
        .field (Field.carries_list Task.carries) <|
        .field (Field.carries_list Stack.carries) <|
        .field (Field.carries_withDefault HorizontalDashboard.carries _) <|
        .field (Field.carries_withDefault VerticalDashboard.carries _) <|
        .field (Field.carries_list LogService.carries) <|
        .plain <|
        .field (Field.carries_list PortEntry.carries) .rest)
      (by decide))
    fun _ => rfl

/-- Every record of an accepted text comes back with all the members that are no fields of it, at
the end of the same way.  Only buckets of a grouping whose key is given again are replaced. -/
theorem untyped_members_survive {source text : String} {store : Store}
    (hparse : Store.parse source text = .ok store) :
    ∃ tree, scan text = (tree, none) ∧
      (∀ way keys members, tree.HasRecord NotRepeated Document.shape way keys members →
        ∃ written, at? way (.object store.doc.topLevel) = some (.object written) ∧
          CarriedOver keys members written) ∧
      ((Json.object store.doc.topLevel).Whole →
        ∃ shown, scan store.doc.text = (shown, none) ∧
          shown.Shows (.object store.doc.topLevel)) := by
  obtain ⟨doc, hdoc, rfl⟩ := Store.exists_of_parse hparse
  obtain ⟨tree, hscan, hread⟩ := Codec.exists_of_decode hdoc
  refine ⟨tree, hscan, fun way keys members hrecord => ?_, fun hwhole => ?_⟩
  · exact Document.carries.found hread hrecord
  · obtain ⟨shown, hshows, hshown⟩ := Document.scan_layOut hwhole
    exact ⟨shown, hshown, hshows⟩

def wayToReference : List Hop :=
  [.key "nodes", .index 0, .key "Tasks", .key "s", .index 0]

/-- Data of a reference beside its fields, some of it given again. -/
def handwritten : Members :=
  [("note", .number (.integer 1)),
    ("nodes", .array [.object [("Tasks", .object
      [("s", .array [.object
        [("Rank", .number (.integer (-3))), ("ID", .string "t"), ("Rack", .null),
          ("Rank", .number (.integer 2))]])])]]),
    ("note", .array [])]

/-- What is read of it. -/
def annotated : Document where
  nodes :=
    [{ tasks := some (OrderedMap.ofList
        [("s", [{ id := "t", untyped := [("Rank", .number (.integer 2)), ("Rack", .null)] }])]) }]
  untyped := [("note", .array [])]

theorem exhibits_handwritten :
    Json.Exhibits NotRepeated Document.shape (.object handwritten) wayToReference
      (["ID", "Status", "NodeID", "NodeName", "ServiceID", "ServiceName", "Stack", "CreatedAt",
        "UpdatedAt"]) ["Rank", "Rack", "Rank"] :=
  .field List.mem_cons_self (List.mem_of_getElem? (i := 1) rfl) <|
    .item rfl <|
    .field (List.mem_of_getElem? (i := 3) rfl) List.mem_cons_self <|
    .entry [] (fun _ hlate => Json.Exhibits.notRepeated_of_shows hlate List.not_mem_nil) <|
    .item rfl .here

theorem untyped_members_survive_annotated :
    let text := String.ofList (Document.layOut handwritten)
    Store.parse "data.json" text = .ok (Store.of "data.json" annotated) ∧
      (Json.object annotated.topLevel).Whole ∧
      ∃ tree, scan text = (tree, none) ∧
        (∃ keys members, tree.HasRecord NotRepeated Document.shape wayToReference keys members ∧
          (Json.unmodelled keys members).map Prod.fst = ["Rank", "Rack", "Rank"] ∧
          ∃ written, at? wayToReference (.object annotated.topLevel) = some (.object written) ∧
            CarriedOver keys members written) ∧
        ∃ shown, scan annotated.text = (shown, none) ∧
          shown.Shows (.object annotated.topLevel) := by
  intro text
  have hloaded : Document.parse text = .ok annotated := by decide +kernel
  have hparse : Store.parse "data.json" text = .ok (Store.of "data.json" annotated) := by
    rw [Store.parse, hloaded]
  have hwhole : (Json.object annotated.topLevel).Whole := by decide +kernel
  obtain ⟨tree, hshows, hscan⟩ := Document.scan_layOut
    (show (Json.object handwritten).Whole by decide)
  obtain ⟨members, hrecord, hnames⟩ := exhibits_handwritten tree hshows
  obtain ⟨scanned, hscanned, hrecords, htext⟩ := untyped_members_survive hparse
  obtain rfl : tree = scanned := congrArg Prod.fst (hscan.symm.trans hscanned)
  exact ⟨hparse, hwhole, tree, hscan, ⟨_, members, hrecord, hnames, hrecords _ _ _ hrecord⟩,
    htext hwhole⟩

/-- A node whose grouping gives a key twice. -/
def regrouped : Members :=
  [("nodes", .array [.object [("ID", .string "n"), ("Tasks", .object
    [("s", .array [.object [("ID", .string "a"), ("Pinned", .bool true)]]),
      ("s", .array [.object [("ID", .string "b")]])])]])]

/-- The reference in the earlier bucket. -/
theorem exhibits_regrouped :
    Json.Exhibits (fun _ _ => True) Document.shape (.object regrouped) wayToReference
      (["ID", "Status", "NodeID", "NodeName", "ServiceID", "ServiceName", "Stack", "CreatedAt",
        "UpdatedAt"]) ["Pinned"] :=
  .field List.mem_cons_self List.mem_cons_self <|
    .item rfl <|
    .field (List.mem_of_getElem? (i := 3) rfl) (List.mem_of_getElem? (i := 1) rfl) <|
    .entry [] (fun _ _ => trivial) <|
    .item rfl .here

theorem not_repeated_bucket_survives :
    ¬ ∀ (source text : String) (store : Store), Store.parse source text = .ok store →
      ∀ tree, scan text = (tree, none) → ∀ way keys members,
        tree.HasRecord (fun _ _ => True) Document.shape way keys members →
          ∃ written, at? way (.object store.doc.topLevel) = some (.object written) ∧
            CarriedOver keys members written := by
  intro hall
  let doc : Document :=
    { nodes := [{ id := "n", tasks := some (OrderedMap.ofList [("s", [{ id := "b" }])]) }] }
  have hloaded : Document.parse (String.ofList (Document.layOut regrouped)) = .ok doc := by
    decide +kernel
  have hparse : Store.parse "" (String.ofList (Document.layOut regrouped)) =
      .ok (Store.of "" doc) := by
    rw [Store.parse, hloaded]
  obtain ⟨tree, hshows, hscan⟩ := Document.scan_layOut
    (show (Json.object regrouped).Whole by decide)
  obtain ⟨members, hrecord, hnames⟩ := exhibits_regrouped tree hshows
  obtain ⟨written, hwritten, modelled, kept, rfl, -, hkept, -⟩ :=
    hall _ _ _ hparse tree hscan _ _ members hrecord
  have hlater : at? wayToReference (.object doc.topLevel) =
      some (.object [("ID", .string "b")]) := by
    decide +kernel
  have hshown : modelled ++ kept = [("ID", .string "b")] :=
    Json.object.inj (Option.some.inj (hwritten.symm.trans hlater))
  have hpinned : "Pinned" ∈ Members.keys (modelled ++ kept) := by
    rw [Members.keys, List.map_append]
    refine List.mem_append_right _ ?_
    change "Pinned" ∈ kept.keys
    rw [hkept, hnames]
    decide
  rw [hshown] at hpinned
  exact absurd hpinned (by decide)

end MockCluster
