import MockCluster.Proofs.Document.Positions
import MockCluster.Proofs.Json.Tallies

/-!
The members named `NodeID` in the JSON of a document: those of tasks and references, those of
untyped data, and those of the labels of services.

All of them are at most what the values of a document have, since an untyped member takes the place
of a field with its key.  The labels that are written are found again in the JSON.
-/

namespace MockCluster

open Json (Codec Fields countUnder stringsUnder)

variable (id : String)

/-- Counts the members named `NodeID` that an ID is the value of, at each position of a document. -/
def Tally.ofMembers : Tally where
  nodeId
    | .taskNodeId, other | .groupingEntry, other | .unassignedEntry, other =>
      if other = id then 1 else 0
    | _, _ => 0
  untyped members := countUnder "NodeID" id (.object members)

/-- The labels that are written of a specification, unless another member takes their place. -/
def ServiceSpec.writtenLabels (spec : ServiceSpec) : List Members :=
  if "Labels" ∈ spec.untyped.keys then [] else [spec.labels]

def Service.writtenLabels (service : Service) : List Members :=
  if "Spec" ∈ service.untyped.keys then []
  else service.spec.toList.flatMap ServiceSpec.writtenLabels

/-- The labels in the JSON of a document, which a walk does not meet. -/
def Document.writtenLabels (doc : Document) : List Members :=
  if "services" ∈ doc.untyped.keys then [] else doc.services.flatMap Service.writtenLabels

open Tally (ofMembers)

@[simp] theorem Tally.untyped_ofMembers (members : Members) :
    (ofMembers id).untyped members = countUnder "NodeID" id (.object members) := rfl

theorem sumBy_nodeId_ofMembers (value? : Option String) {site : NodeIdSite}
    (h : (ofMembers id).nodeId site = fun other => if other = id then 1 else 0) :
    sumBy ((ofMembers id).nodeId site) value?.toList = value?.toList.count id := by
  rw [h, sumBy_eq_count]

theorem TaskStatus.tallies :
    TaskStatus.codec.Tallies "NodeID" id fun status => (ofMembers id).untyped status.untyped :=
  .imap (Codec.tallies_openRecord
    (.optionalString (by decide) <| .optionalString (by decide) <|
      .optionalString (by decide) Fields.tallies_rest) _) _ _

theorem Task.tallies : Task.codec.Tallies "NodeID" id (ofMembers id).task := by
  refine .congr (.imap (Codec.tallies_openRecord
    (.string (by decide) <| .optionalString (by decide) <| .optionalString (by decide) <|
      .optionalString (by decide) <| .own <| .optionalString (by decide) <|
      .optionalString (by decide) <| .optionalString (by decide) <|
      .optionalString (by decide) <| .optionalString (by decide) <|
      .optionalString (by decide) <| .optionalString (by decide) <|
      .optionalNumber (by decide) <|
      .field (by decide) (TaskStatus.tallies id).optional Fields.tallies_rest) _) _ _) ?_
  intro task
  change task.nodeId.toList.count id + (_ + countUnder "NodeID" id (.object task.untyped)) = _
  rw [Tally.task, Task.untypedMaps, sumBy_append, Option.toList_map, sumBy_map,
    sumBy_nodeId_ofMembers id _ rfl]
  rfl

theorem TaskRef.tallies (site : NodeIdSite)
    (h : (ofMembers id).nodeId site = fun other => if other = id then 1 else 0) :
    TaskRef.codec.Tallies "NodeID" id ((ofMembers id).ref site) := by
  refine .congr (.imap (Codec.tallies_openRecord
    (.string (by decide) <| .field (by decide) (TaskStatus.tallies id).optional <| .own <|
      .optionalString (by decide) <| .optionalString (by decide) <|
      .optionalString (by decide) <| .optionalString (by decide) <|
      .optionalString (by decide) <| .optionalString (by decide) Fields.tallies_rest) _) _ _) ?_
  intro ref
  rw [Tally.ref, TaskRef.untypedMaps, sumBy_append, Option.toList_map, sumBy_map,
    sumBy_nodeId_ofMembers id _ h]
  exact Nat.add_left_comm _ _ _

theorem Grouping.tallies :
    Grouping.codec.Tallies "NodeID" id (ofMembers id).nodeGrouping := by
  refine .congr (.keyed (.list (TaskRef.tallies id .groupingEntry rfl)) fun _ => rfl) ?_
  intro grouping
  rw [Tally.nodeGrouping, Grouping.refs, OrderedMap.values, ← List.flatMap_def, sumBy_flatMap]

theorem Tally.serviceGrouping_ofMembers :
    (ofMembers id).serviceGrouping = (ofMembers id).nodeGrouping := by
  funext grouping
  have hkeys : ∀ key, (ofMembers id).nodeId .serviceGroupingKey key = 0 := fun _ => rfl
  rw [serviceGrouping, sumBy_eq_zero hkeys, Nat.zero_add]

theorem Node.tallies (listing : NodeListing) :
    Node.codec.Tallies "NodeID" id ((ofMembers id).node listing) := by
  refine .congr (.imap (Codec.tallies_openRecord
    (.string (by decide) <| .optionalString (by decide) <| .optionalString (by decide) <|
      .field (by decide) (Grouping.tallies id).optional Fields.tallies_rest) _) _ _) ?_
  intro node
  rw [Tally.node, Nat.add_assoc]
  exact (Nat.zero_add _).symm

theorem PortSpec.tallies :
    PortSpec.codec.Tallies "NodeID" id fun spec => (ofMembers id).untyped spec.untyped :=
  .imap (Codec.tallies_openRecord
    (.optionalString (by decide) <| .optionalNumber (by decide) <| .optionalNumber (by decide) <|
      .optionalString (by decide) Fields.tallies_rest) _) _ _

theorem EndpointSpec.tallies :
    EndpointSpec.codec.Tallies "NodeID" id fun spec =>
      sumBy (ofMembers id).untyped spec.untypedMaps := by
  refine .congr (.imap (Codec.tallies_openRecord
    (.field (by decide) (PortSpec.tallies id).list Fields.tallies_rest) _) _ _) ?_
  intro spec
  simp [EndpointSpec.untypedMaps]

theorem Endpoint.tallies :
    Endpoint.codec.Tallies "NodeID" id fun endpoint =>
      sumBy (ofMembers id).untyped endpoint.untypedMaps := by
  refine .congr (.imap (Codec.tallies_openRecord
    (.field (by decide) (PortSpec.tallies id).list <|
      .field (by decide) (EndpointSpec.tallies id).optional Fields.tallies_rest) _) _ _) ?_
  intro endpoint
  simp [Endpoint.untypedMaps]

theorem ServiceSpec.tallies :
    ServiceSpec.codec.Tallies "NodeID" id fun spec =>
      sumBy (ofMembers id).untyped spec.writtenLabels + (ofMembers id).untyped spec.untyped := by
  refine .congr (.imap (Codec.tallies_openRecord
    (.optionalString (by decide) <|
      .unlessReplaced (by decide) Codec.tallies_members Fields.tallies_rest) _) _ _) ?_
  intro spec
  rw [writtenLabels, apply_ite (sumBy _)]
  rfl

theorem Service.tallies :
    Service.codec.Tallies "NodeID" id fun service =>
      (ofMembers id).service service + sumBy (ofMembers id).untyped service.writtenLabels := by
  refine .mono (.imap (Codec.tallies_openRecord
    (.string (by decide) <| .optionalString (by decide) <| .optionalString (by decide) <|
      .optionalString (by decide) <|
      .unlessReplaced (by decide) (ServiceSpec.tallies id).optional <|
      .field (by decide) (Endpoint.tallies id).optional <|
      .field (by decide) (Grouping.tallies id).optional Fields.tallies_rest) _) _ _) ?_
  intro service
  change (if "Spec" ∈ service.untyped.keys then 0 else _) + _ ≤ _
  rw [Tally.service, Tally.serviceGrouping_ofMembers, writtenLabels]
  split
  all_goals
    simp only [Service.untypedMaps, Option.toList_map, sumBy_append, sumBy_map, sumBy_flatMap,
      sumBy_add, sumBy_cons, sumBy_nil, Tally.untyped_ofMembers]
    omega

theorem ServiceSummary.tallies :
    ServiceSummary.codec.Tallies "NodeID" id (ofMembers id).summary := by
  refine .congr (.imap (Codec.tallies_openRecord
    (.string (by decide) <| .optionalString (by decide) <| .optionalString (by decide) <|
      .optionalString (by decide) <|
      .field (by decide) (Grouping.tallies id).optional Fields.tallies_rest) _) _ _) ?_
  intro summary
  rw [Tally.summary, Tally.serviceGrouping_ofMembers]
  rfl

theorem LogService.tallies :
    LogService.codec.Tallies "NodeID" id fun service => (ofMembers id).untyped service.untyped :=
  .imap (Codec.tallies_openRecord
    (.string (by decide) <| .optionalString (by decide) Fields.tallies_rest) _) _ _

theorem StackService.tallies :
    StackService.codec.Tallies "NodeID" id fun service => (ofMembers id).untyped service.untyped :=
  .imap (Codec.tallies_openRecord
    (.string (by decide) <| .optionalString (by decide) <| .optionalString (by decide) <|
      .optionalString (by decide) <| .optionalString (by decide) <|
      .optionalString (by decide) Fields.tallies_rest) _) _ _

theorem Stack.tallies :
    Stack.codec.Tallies "NodeID" id fun stack => sumBy (ofMembers id).untyped stack.untypedMaps := by
  refine .congr (.imap (Codec.tallies_openRecord
    (.string (by decide) <|
      .field (by decide) (StackService.tallies id).list Fields.tallies_rest) _) _ _) ?_
  intro stack
  simp [Stack.untypedMaps]

theorem PortEntry.tallies :
    PortEntry.codec.Tallies "NodeID" id fun entry => (ofMembers id).untyped entry.untyped :=
  .imap (Codec.tallies_openRecord
    (.optionalNumber (by decide) <| .optionalNumber (by decide) <|
      .optionalString (by decide) <| .optionalString (by decide) <|
      .optionalString (by decide) <| .optionalString (by decide) <|
      .optionalString (by decide) Fields.tallies_rest) _) _ _

theorem TimelineEntry.tallies : TimelineEntry.codec.Tallies "NodeID" id fun _ => 0 :=
  .imap (Codec.tallies_closedRecord
    (.string (by decide) <| .string (by decide) <| .string (by decide) <|
      .string (by decide) <| .string (by decide) <|
      .plain (by decide) (Codec.tallies_natBelow _ _) <| .string (by decide) <|
      .string (by decide) <| .string (by decide) Fields.tallies_done) _) _ _

theorem HorizontalDashboard.tallies :
    HorizontalDashboard.codec.Tallies "NodeID" id fun dashboard =>
      sumBy (ofMembers id).summary dashboard.services +
        (sumBy ((ofMembers id).node .horizontal) dashboard.nodes +
        (sumBy ((ofMembers id).ref .unassignedEntry) dashboard.unassigned +
        (ofMembers id).untyped dashboard.untyped)) :=
  .imap (Codec.tallies_openRecord
    (.field (by decide) (ServiceSummary.tallies id).list <|
      .field (by decide) (Node.tallies id .horizontal).list <|
      .field (by decide) (TaskRef.tallies id .unassignedEntry rfl).list
        Fields.tallies_rest) _) _ _

theorem VerticalDashboard.tallies :
    VerticalDashboard.codec.Tallies "NodeID" id fun dashboard =>
      sumBy (ofMembers id).summary dashboard.services +
        (sumBy ((ofMembers id).node .vertical) dashboard.nodes +
        (ofMembers id).untyped dashboard.untyped) :=
  .imap (Codec.tallies_openRecord
    (.field (by decide) (ServiceSummary.tallies id).list <|
      .field (by decide) (Node.tallies id .vertical).list Fields.tallies_rest) _) _ _

/-- Besides the positions that a walk meets only the labels of services have such members. -/
theorem Document.countUnder_topLevel_le (doc : Document) :
    countUnder "NodeID" id (.object doc.topLevel) ≤
      (ofMembers id).document doc + sumBy (ofMembers id).untyped doc.writtenLabels := by
  have htally : Document.fields.Tallies "NodeID" id _ :=
    .field (by decide) (Node.tallies id .primary).list <|
      .unlessReplaced (by decide) (Service.tallies id).list <|
      .field (by decide) (Task.tallies id).list <|
      .field (by decide) (Stack.tallies id).list <|
      .field (by decide) (HorizontalDashboard.tallies id) <|
      .field (by decide) (VerticalDashboard.tallies id) <|
      .field (by decide) (LogService.tallies id).list <|
      .field (by decide) (TimelineEntry.tallies id).list <|
      .field (by decide) (PortEntry.tallies id).list Fields.tallies_rest
  refine (htally doc.parts).trans ?_
  change _ + ((if "services" ∈ doc.untyped.keys then 0 else _) + _) ≤ _
  rw [Tally.document_eq, writtenLabels]
  split
  all_goals
    simp only [parts, sumBy_add, sumBy_zero, sumBy_flatMap, sumBy_nil, Tally.untyped_ofMembers]
    omega

section Labels

variable {id : String} {labels : Members}

theorem ServiceSpec.mem_writtenLabels_iff {spec : ServiceSpec} :
    labels ∈ spec.writtenLabels ↔ "Labels" ∉ spec.untyped.keys ∧ labels = spec.labels := by
  rw [writtenLabels]
  split <;> simp [*]

theorem Service.mem_writtenLabels_iff {service : Service} :
    labels ∈ service.writtenLabels ↔
      "Spec" ∉ service.untyped.keys ∧ ∃ spec ∈ service.spec, labels ∈ spec.writtenLabels := by
  rw [writtenLabels]
  split <;> simp [*]

theorem Document.mem_writtenLabels_iff {doc : Document} :
    labels ∈ doc.writtenLabels ↔
      "services" ∉ doc.untyped.keys ∧ ∃ service ∈ doc.services, labels ∈ service.writtenLabels := by
  rw [writtenLabels]
  split <;> simp [*]

theorem Document.exists_writtenLabels_iff {doc : Document} {P : Members → Prop} :
    (∃ labels ∈ doc.writtenLabels, P labels) ↔
      "services" ∉ doc.untyped.keys ∧
        ∃ service ∈ doc.services, "Spec" ∉ service.untyped.keys ∧
          ∃ spec ∈ service.spec, "Labels" ∉ spec.untyped.keys ∧ P spec.labels := by
  simp only [mem_writtenLabels_iff, Service.mem_writtenLabels_iff,
    ServiceSpec.mem_writtenLabels_iff]
  constructor
  · rintro ⟨_, ⟨hservices, service, hservice, hspecs, spec, hspec, hkept, rfl⟩, hlabels⟩
    exact ⟨hservices, service, hservice, hspecs, spec, hspec, hkept, hlabels⟩
  · rintro ⟨hservices, service, hservice, hspecs, spec, hspec, hkept, hlabels⟩
    exact ⟨_, ⟨hservices, service, hservice, hspecs, spec, hspec, hkept, rfl⟩, hlabels⟩

variable (hid : id ∈ stringsUnder "NodeID" (.object labels))

include hid

theorem ServiceSpec.mem_stringsUnder {spec : ServiceSpec} (h : labels ∈ spec.writtenLabels) :
    id ∈ stringsUnder "NodeID" (codec.write spec) := by
  obtain ⟨hkept, rfl⟩ := mem_writtenLabels_iff.1 h
  have hnonempty : (!spec.labels.isEmpty) = true := by
    cases hlabels : spec.labels with
    | nil =>
        rw [hlabels] at hid
        cases hid
    | cons => rfl
  change id ∈ stringsUnder _ (.object (Fields.write _ (spec.name, spec.labels, spec.untyped)))
  refine Json.stringsUnder_subset_of_mem (Fields.mem_write (by decide)
    (Fields.mem_entries_later (Fields.mem_entries_own hnonempty)) hkept) ?_
  change id ∈ stringsUnder _ (Codec.members.write spec.labels)
  rwa [Codec.write_members]

theorem Service.mem_stringsUnder {service : Service} (h : labels ∈ service.writtenLabels) :
    id ∈ stringsUnder "NodeID" (codec.write service) := by
  obtain ⟨hkept, spec, hspec, hlabels⟩ := mem_writtenLabels_iff.1 h
  have hwritten : service.spec.isSome = true := Option.isSome_of_mem hspec
  change id ∈ stringsUnder _ (.object (Fields.write _ (service.id, service.name, service.stack,
    service.replication, service.spec, service.endpoint, service.tasks, service.untyped)))
  refine Json.stringsUnder_subset_of_mem (Fields.mem_write (by decide)
    (Fields.mem_entries_later <| Fields.mem_entries_later <| Fields.mem_entries_later <|
      Fields.mem_entries_later (Fields.mem_entries_own hwritten)) hkept) ?_
  change id ∈ stringsUnder _ (ServiceSpec.codec.optional.write service.spec)
  rw [hspec]
  exact ServiceSpec.mem_stringsUnder hid hlabels

/-- The labels that are written are there in the JSON. -/
theorem Document.mem_stringsUnder {doc : Document} (h : labels ∈ doc.writtenLabels) :
    id ∈ stringsUnder "NodeID" (.object doc.topLevel) := by
  obtain ⟨hkept, service, hservice, hlabels⟩ := mem_writtenLabels_iff.1 h
  refine Json.stringsUnder_subset_of_mem (Fields.mem_write (by decide)
    (Fields.mem_entries_later (Fields.mem_entries_own rfl)) hkept) ?_
  change id ∈ stringsUnder _ (.array (doc.services.map Service.codec.write))
  rw [Json.stringsUnder_array, List.mem_flatMap]
  exact ⟨_, List.mem_map_of_mem hservice, Service.mem_stringsUnder hid hlabels⟩

end Labels

end MockCluster
