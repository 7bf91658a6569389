import Mathlib.Tactic.MkIffOfInductiveProp
import MockCluster.Proofs.Document.Layout
import MockCluster.Proofs.Json.Record
import MockCluster.Proofs.OrderedMap

/-!
Documents that can be stored and loaded: their untyped data stands apart from the fields beside it
and is no deeper than the reader goes, and their numbers fit the types they are read as.

The depth of a record is the number of arrays and objects around it.
-/

namespace MockCluster

open Json (Codec Field Fields FreeMembers Tree)

variable {depth : Nat}

@[mk_iff]
structure TaskStatus.Fits (depth : Nat) (status : TaskStatus) : Prop where
  untyped : FreeMembers (depth + 1) ["State", "Err", "Timestamp"] status.untyped

theorem TaskStatus.keeps (hdepth : depth < Tree.depthLimit) :
    TaskStatus.codec.Keeps depth (TaskStatus.Fits depth) :=
  .congr
    (.imap
      (Codec.keeps_openRecord
        (.optionalString <| .optionalString <| .optionalString .rest) (by decide) hdepth)
      (fun _ => rfl) fun _ => rfl)
    fun status => by simp [TaskStatus.fits_iff]

@[mk_iff]
structure Task.Fits (depth : Nat) (task : Task) : Prop where
  slot : ∀ slot ∈ task.slot, slot < twoTo 64
  status : ∀ status ∈ task.status, status.Fits (depth + 1)
  untyped : FreeMembers (depth + 1)
    ["ID", "ServiceID", "ServiceName", "Stack", "NodeID", "NodeName", "State", "Err", "CreatedAt",
      "UpdatedAt", "DesiredState", "Timestamp", "Slot", "Status"] task.untyped

theorem Task.keeps (hdepth : depth + 1 < Tree.depthLimit) :
    Task.codec.Keeps depth (Task.Fits depth) :=
  .congr
    (.imap
      (Codec.keeps_openRecord
        (.string <| .optionalString <| .optionalString <| .optionalString <| .optionalString <|
          .optionalString <| .optionalString <| .optionalString <| .optionalString <|
          .optionalString <| .optionalString <| .optionalString <|
          .field (Field.keeps_optional (Codec.keeps_natBelow (by decide)) nofun) <|
          .field (Field.keeps_optional (TaskStatus.keeps hdepth) nofun) .rest)
        (by decide) (by omega))
      (fun _ => rfl) fun _ => rfl)
    fun task => by simp [Task.fits_iff]

@[mk_iff]
structure TaskRef.Fits (depth : Nat) (ref : TaskRef) : Prop where
  status : ∀ status ∈ ref.status, status.Fits (depth + 1)
  untyped : FreeMembers (depth + 1)
    ["ID", "Status", "NodeID", "NodeName", "ServiceID", "ServiceName", "Stack", "CreatedAt",
      "UpdatedAt"] ref.untyped

theorem TaskRef.keeps (hdepth : depth + 1 < Tree.depthLimit) :
    TaskRef.codec.Keeps depth (TaskRef.Fits depth) :=
  .congr
    (.imap
      (Codec.keeps_openRecord
        (.string <|
          .field (Field.keeps_optional (TaskStatus.keeps hdepth) nofun) <|
          .optionalString <| .optionalString <| .optionalString <| .optionalString <|
          .optionalString <| .optionalString <| .optionalString .rest)
        (by decide) (by omega))
      (fun _ => rfl) fun _ => rfl)
    fun ref => by simp [TaskRef.fits_iff]

/-- References stand in the lists that the grouping holds. -/
def Grouping.Fits (depth : Nat) (grouping : Grouping) : Prop :=
  ∀ ref ∈ grouping.refs, ref.Fits (depth + 2)

theorem Grouping.keeps (hdepth : depth + 3 < Tree.depthLimit) :
    Grouping.codec.Keeps depth (Grouping.Fits depth) := by
  have hentries : Codec.KeepsEntries (∅ : Grouping) OrderedMap.insert OrderedMap.entries
      fun _ => True :=
    { start := ⟨trivial, rfl⟩
      step := fun _ _ _ => trivial
      mem_set := OrderedMap.mem_entries_insert
      rebuild := fun _ => OrderedMap.ofList_entries _ }
  refine .congr (.keyed (.list (TaskRef.keeps (by omega)) (by omega)) (by omega) hentries) ?_
  intro grouping
  constructor
  · intro h
    exact ⟨trivial, fun entry hentry ref hmem =>
      h ref (List.mem_flatten.2 ⟨entry.2, List.mem_map_of_mem hentry, hmem⟩)⟩
  · intro h ref hmem
    obtain ⟨bucket, hbucket, hmem⟩ := List.mem_flatten.1 hmem
    obtain ⟨entry, hentry, rfl⟩ := List.mem_map.1 hbucket
    exact h.2 entry hentry ref hmem

@[mk_iff]
structure Node.Fits (depth : Nat) (node : Node) : Prop where
  tasks : ∀ grouping ∈ node.tasks, grouping.Fits (depth + 1)
  untyped : FreeMembers (depth + 1) ["ID", "Hostname", "Name", "Tasks"] node.untyped

theorem Node.keeps (hdepth : depth + 4 < Tree.depthLimit) :
    Node.codec.Keeps depth (Node.Fits depth) :=
  .congr
    (.imap
      (Codec.keeps_openRecord
        (.string <| .optionalString <| .optionalString <|
          .field (Field.keeps_optional (Grouping.keeps (by omega)) nofun) .rest)
        (by decide) (by omega))
      (fun _ => rfl) fun _ => rfl)
    fun node => by simp [Node.fits_iff]

@[mk_iff]
structure PortSpec.Fits (depth : Nat) (spec : PortSpec) : Prop where
  targetPort : ∀ port ∈ spec.targetPort, port < twoTo 32
  publishedPort : ∀ port ∈ spec.publishedPort, port < twoTo 32
  untyped : FreeMembers (depth + 1) ["Protocol", "TargetPort", "PublishedPort", "PublishMode"]
    spec.untyped

theorem PortSpec.keeps (hdepth : depth < Tree.depthLimit) :
    PortSpec.codec.Keeps depth (PortSpec.Fits depth) :=
  .congr
    (.imap
      (Codec.keeps_openRecord
        (.optionalString <|
          .field (Field.keeps_optional (Codec.keeps_natBelow (by decide)) nofun) <|
          .field (Field.keeps_optional (Codec.keeps_natBelow (by decide)) nofun) <|
          .optionalString .rest)
        (by decide) hdepth)
      (fun _ => rfl) fun _ => rfl)
    fun spec => by simp [PortSpec.fits_iff]

@[mk_iff]
structure EndpointSpec.Fits (depth : Nat) (spec : EndpointSpec) : Prop where
  ports : ∀ port ∈ spec.ports, port.Fits (depth + 2)
  untyped : FreeMembers (depth + 1) ["Ports"] spec.untyped

theorem EndpointSpec.keeps (hdepth : depth + 2 < Tree.depthLimit) :
    EndpointSpec.codec.Keeps depth (EndpointSpec.Fits depth) :=
  .congr
    (.imap
      (Codec.keeps_openRecord
        (.field (Field.keeps_listUnlessEmpty (PortSpec.keeps hdepth) (by omega)) .rest)
        (by decide) (by omega))
      (fun _ => rfl) fun _ => rfl)
    fun spec => by simp [EndpointSpec.fits_iff]

@[mk_iff]
structure Endpoint.Fits (depth : Nat) (endpoint : Endpoint) : Prop where
  ports : ∀ port ∈ endpoint.ports, port.Fits (depth + 2)
  spec : ∀ spec ∈ endpoint.spec, spec.Fits (depth + 1)
  untyped : FreeMembers (depth + 1) ["Ports", "Spec"] endpoint.untyped

theorem Endpoint.keeps (hdepth : depth + 3 < Tree.depthLimit) :
    Endpoint.codec.Keeps depth (Endpoint.Fits depth) :=
  .congr
    (.imap
      (Codec.keeps_openRecord
        (.field (Field.keeps_listUnlessEmpty (PortSpec.keeps (by omega)) (by omega)) <|
          .field (Field.keeps_optional (EndpointSpec.keeps (by omega)) nofun) .rest)
        (by decide) (by omega))
      (fun _ => rfl) fun _ => rfl)
    fun endpoint => by simp [Endpoint.fits_iff]

theorem ServiceSpec.keeps_labels (hdepth : depth < Tree.depthLimit) :
    Field.Keeps ⟨"Labels", Codec.members, some [], fun labels => !labels.isEmpty⟩ depth
      (FreeMembers (depth + 1) []) where
  codec := Codec.keeps_members hdepth
  absent := by
    intro labels hlabels
    cases hlabels
    exact Json.freeMembers_nil
  unwritten := by
    intro labels hwritten
    cases labels with
    | nil => rfl
    | cons => cases hwritten

@[mk_iff]
structure ServiceSpec.Fits (depth : Nat) (spec : ServiceSpec) : Prop where
  labels : FreeMembers (depth + 2) [] spec.labels
  untyped : FreeMembers (depth + 1) ["Name", "Labels"] spec.untyped

theorem ServiceSpec.keeps (hdepth : depth + 1 < Tree.depthLimit) :
    ServiceSpec.codec.Keeps depth (ServiceSpec.Fits depth) :=
  .congr
    (.imap
      (Codec.keeps_openRecord
        (.optionalString <| .field (keeps_labels hdepth) .rest)
        (by decide) (by omega))
      (fun _ => rfl) fun _ => rfl)
    fun spec => by simp [ServiceSpec.fits_iff]

@[mk_iff]
structure Service.Fits (depth : Nat) (service : Service) : Prop where
  spec : ∀ spec ∈ service.spec, spec.Fits (depth + 1)
  endpoint : ∀ endpoint ∈ service.endpoint, endpoint.Fits (depth + 1)
  tasks : ∀ grouping ∈ service.tasks, grouping.Fits (depth + 1)
  untyped : FreeMembers (depth + 1)
    ["ID", "Name", "Stack", "Replication", "Spec", "Endpoint", "Tasks"] service.untyped

theorem Service.keeps (hdepth : depth + 4 < Tree.depthLimit) :
    Service.codec.Keeps depth (Service.Fits depth) :=
  .congr
    (.imap
      (Codec.keeps_openRecord
        (.string <| .optionalString <| .optionalString <| .optionalString <|
          .field (Field.keeps_optional (ServiceSpec.keeps (by omega)) nofun) <|
          .field (Field.keeps_optional (Endpoint.keeps (by omega)) nofun) <|
          .field (Field.keeps_optional (Grouping.keeps (by omega)) nofun) .rest)
        (by decide) (by omega))
      (fun _ => rfl) fun _ => rfl)
    fun service => by simp [Service.fits_iff]

@[mk_iff]
structure ServiceSummary.Fits (depth : Nat) (summary : ServiceSummary) : Prop where
  tasks : ∀ grouping ∈ summary.tasks, grouping.Fits (depth + 1)
  untyped : FreeMembers (depth + 1) ["ID", "Name", "Stack", "Replication", "Tasks"] summary.untyped

theorem ServiceSummary.keeps (hdepth : depth + 4 < Tree.depthLimit) :
    ServiceSummary.codec.Keeps depth (ServiceSummary.Fits depth) :=
  .congr
    (.imap
      (Codec.keeps_openRecord
        (.string <| .optionalString <| .optionalString <| .optionalString <|
          .field (Field.keeps_optional (Grouping.keeps (by omega)) nofun) .rest)
        (by decide) (by omega))
      (fun _ => rfl) fun _ => rfl)
    fun summary => by simp [ServiceSummary.fits_iff]

@[mk_iff]
structure LogService.Fits (depth : Nat) (service : LogService) : Prop where
  untyped : FreeMembers (depth + 1) ["ID", "Name"] service.untyped

theorem LogService.keeps (hdepth : depth < Tree.depthLimit) :
    LogService.codec.Keeps depth (LogService.Fits depth) :=
  .congr
    (.imap
      (Codec.keeps_openRecord (.string <| .optionalString .rest) (by decide) hdepth)
      (fun _ => rfl) fun _ => rfl)
    fun service => by simp [LogService.fits_iff]

@[mk_iff]
structure StackService.Fits (depth : Nat) (service : StackService) : Prop where
  untyped : FreeMembers (depth + 1)
    ["ID", "ServiceName", "ShortName", "Replication", "Created", "Updated"] service.untyped

theorem StackService.keeps (hdepth : depth < Tree.depthLimit) :
    StackService.codec.Keeps depth (StackService.Fits depth) :=
  .congr
    (.imap
      (Codec.keeps_openRecord
        (.string <| .optionalString <| .optionalString <| .optionalString <| .optionalString <|
          .optionalString .rest) (by decide) hdepth)
      (fun _ => rfl) fun _ => rfl)
    fun service => by simp [StackService.fits_iff]

@[mk_iff]
structure Stack.Fits (depth : Nat) (stack : Stack) : Prop where
  services : ∀ service ∈ stack.services, service.Fits (depth + 2)
  untyped : FreeMembers (depth + 1) ["Name", "Services"] stack.untyped

theorem Stack.keeps (hdepth : depth + 2 < Tree.depthLimit) :
    Stack.codec.Keeps depth (Stack.Fits depth) :=
  .congr
    (.imap
      (Codec.keeps_openRecord
        (.string <|
          .field (Field.keeps_list (StackService.keeps hdepth) (by omega)) .rest)
        (by decide) (by omega))
      (fun _ => rfl) fun _ => rfl)
    fun stack => by simp [Stack.fits_iff]

@[mk_iff]
structure PortEntry.Fits (depth : Nat) (entry : PortEntry) : Prop where
  publishedPort : ∀ port ∈ entry.publishedPort, port < twoTo 32
  targetPort : ∀ port ∈ entry.targetPort, port < twoTo 32
  untyped : FreeMembers (depth + 1)
    ["PublishedPort", "TargetPort", "Protocol", "PublishMode", "ServiceName", "ServiceID",
      "Stack"] entry.untyped

theorem PortEntry.keeps (hdepth : depth < Tree.depthLimit) :
    PortEntry.codec.Keeps depth (PortEntry.Fits depth) :=
  .congr
    (.imap
      (Codec.keeps_openRecord
        (.field (Field.keeps_optional (Codec.keeps_natBelow (by decide)) nofun) <|
          .field (Field.keeps_optional (Codec.keeps_natBelow (by decide)) nofun) <|
          .optionalString <| .optionalString <| .optionalString <| .optionalString <|
          .optionalString .rest)
        (by decide) hdepth)
      (fun _ => rfl) fun _ => rfl)
    fun entry => by simp [PortEntry.fits_iff]

theorem TimelineEntry.keeps (hdepth : depth < Tree.depthLimit) :
    TimelineEntry.codec.Keeps depth fun entry => entry.slot < twoTo 64 :=
  .congr
    (.imap
      (Codec.keeps_closedRecord
        (.string <| .string <| .string <| .string <| .string <|
          .field
            (Field.keeps_withDefault (Codec.keeps_natBelow (by decide)) (by decide)) <|
          .string <| .string <| .string .done)
        (by decide) hdepth)
      (fun _ => rfl) fun _ => rfl)
    fun entry => by simp

@[mk_iff]
structure HorizontalDashboard.Fits (depth : Nat) (dashboard : HorizontalDashboard) : Prop where
  services : ∀ summary ∈ dashboard.services, summary.Fits (depth + 2)
  nodes : ∀ node ∈ dashboard.nodes, node.Fits (depth + 2)
  unassigned : ∀ ref ∈ dashboard.unassigned, ref.Fits (depth + 2)
  untyped : FreeMembers (depth + 1) ["Services", "Nodes", "UnassignedTasks"] dashboard.untyped

theorem HorizontalDashboard.keeps (hdepth : depth + 6 < Tree.depthLimit) :
    HorizontalDashboard.codec.Keeps depth (HorizontalDashboard.Fits depth) :=
  .congr
    (.imap
      (Codec.keeps_openRecord
        (.field (Field.keeps_list (ServiceSummary.keeps hdepth) (by omega)) <|
          .field (Field.keeps_list (Node.keeps hdepth) (by omega)) <|
          .field
            (Field.keeps_listUnlessEmpty (TaskRef.keeps (by omega)) (by omega)) .rest)
        (by decide) (by omega))
      (fun _ => rfl) fun _ => rfl)
    fun dashboard => by simp [HorizontalDashboard.fits_iff]

theorem HorizontalDashboard.fits_default : HorizontalDashboard.Fits depth {} where
  services := List.forall_mem_nil _
  nodes := List.forall_mem_nil _
  unassigned := List.forall_mem_nil _
  untyped := Json.freeMembers_nil

@[mk_iff]
structure VerticalDashboard.Fits (depth : Nat) (dashboard : VerticalDashboard) : Prop where
  services : ∀ summary ∈ dashboard.services, summary.Fits (depth + 2)
  nodes : ∀ node ∈ dashboard.nodes, node.Fits (depth + 2)
  untyped : FreeMembers (depth + 1) ["Services", "Nodes"] dashboard.untyped

theorem VerticalDashboard.keeps (hdepth : depth + 6 < Tree.depthLimit) :
    VerticalDashboard.codec.Keeps depth (VerticalDashboard.Fits depth) :=
  .congr
    (.imap
      (Codec.keeps_openRecord
        (.field (Field.keeps_list (ServiceSummary.keeps hdepth) (by omega)) <|
          .field (Field.keeps_list (Node.keeps hdepth) (by omega)) .rest)
        (by decide) (by omega))
      (fun _ => rfl) fun _ => rfl)
    fun dashboard => by simp [VerticalDashboard.fits_iff]

theorem VerticalDashboard.fits_default : VerticalDashboard.Fits depth {} where
  services := List.forall_mem_nil _
  nodes := List.forall_mem_nil _
  untyped := Json.freeMembers_nil

@[mk_iff]
structure Document.Fits (doc : Document) : Prop where
  nodes : ∀ node ∈ doc.nodes, node.Fits 2
  services : ∀ service ∈ doc.services, service.Fits 2
  tasks : ∀ task ∈ doc.tasks, task.Fits 2
  stackRecords : ∀ stack ∈ doc.stackRecords, stack.Fits 2
  horizontal : doc.horizontal.Fits 1
  vertical : doc.vertical.Fits 1
  logServices : ∀ service ∈ doc.logServices, service.Fits 2
  timeline : ∀ entry ∈ doc.timeline, entry.slot < twoTo 64
  ports : ∀ entry ∈ doc.ports, entry.Fits 2
  untyped : FreeMembers 1
    ["nodes", "services", "tasks", "stacks", "dashboardh", "dashboardv", "ui.logs.services",
      "timeline", "ports"] doc.untyped

theorem Document.keeps : Document.codec.Keeps 0 Document.Fits :=
  .congr
    (.imap
      (Codec.keeps_openRecord
        (.field (Field.keeps_list (Node.keeps (by decide)) (by decide)) <|
          .field (Field.keeps_list (Service.keeps (by decide)) (by decide)) <|
          .field (Field.keeps_list (Task.keeps (by decide)) (by decide)) <|
          .field (Field.keeps_list (Stack.keeps (by decide)) (by decide)) <|
          .field
            (Field.keeps_withDefault (HorizontalDashboard.keeps (by decide))
              HorizontalDashboard.fits_default) <|
          .field
            (Field.keeps_withDefault (VerticalDashboard.keeps (by decide))
              VerticalDashboard.fits_default) <|
          .field (Field.keeps_list (LogService.keeps (by decide)) (by decide)) <|
          .field (Field.keeps_list (TimelineEntry.keeps (by decide)) (by decide)) <|
          .field (Field.keeps_list (PortEntry.keeps (by decide)) (by decide)) .rest)
        (by decide) (by decide))
      (fun _ => rfl) fun _ => rfl)
    fun doc => by simp [Document.fits_iff, Document.parts]

/-- A document that fits is parsed from its own text. -/
theorem Document.parse_text {doc : Document} (h : doc.Fits) :
    Document.parse doc.text = .ok doc := by
  obtain ⟨tree, hshows, hscan⟩ := scan_layOut (Document.keeps.whole_of_fits h)
  exact Json.Codec.decode_of_read hscan (Document.keeps.read_of_shows h hshows)

theorem Document.fits_of_parse {text : String} {doc : Document}
    (h : Document.parse text = .ok doc) (hwhole : (Json.object doc.topLevel).Whole) : doc.Fits := by
  obtain ⟨tree, -, hread⟩ := Json.Codec.exists_of_decode h
  exact Document.keeps.fits_of_read hread hwhole

end MockCluster
