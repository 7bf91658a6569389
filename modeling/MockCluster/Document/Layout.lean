import MockCluster.Document.Node
import MockCluster.Document.Service

/-!
The whole document, and its text with one top-level member to a line.

A change to one collection changes one line of the text.
-/

namespace MockCluster

open Json (Codec Fields)

structure HorizontalDashboard where
  services : List ServiceSummary := []
  nodes : List Node := []
  unassigned : List TaskRef := []
  untyped : Members := []
  deriving DecidableEq, Repr, Inhabited

def HorizontalDashboard.codec : Codec HorizontalDashboard :=
  (Codec.openRecord "DashboardH" <|
    .field (.list "Services" ServiceSummary.codec) <|
    .field (.list "Nodes" Node.codec) <|
    .field (.listUnlessEmpty "UnassignedTasks" TaskRef.codec) .rest).imap
    (fun (services, nodes, unassigned, untyped) => ⟨services, nodes, unassigned, untyped⟩)
    (fun d => (d.services, d.nodes, d.unassigned, d.untyped))

structure VerticalDashboard where
  services : List ServiceSummary := []
  nodes : List Node := []
  untyped : Members := []
  deriving DecidableEq, Repr, Inhabited

def VerticalDashboard.codec : Codec VerticalDashboard :=
  (Codec.openRecord "DashboardV" <|
    .field (.list "Services" ServiceSummary.codec) <|
    .field (.list "Nodes" Node.codec) .rest).imap
    (fun (services, nodes, untyped) => ⟨services, nodes, untyped⟩)
    (fun d => (d.services, d.nodes, d.untyped))

/-- The flat task list is the source of every grouping and of the timeline. -/
structure Document where
  nodes : List Node := []
  services : List Service := []
  tasks : List Task := []
  stackRecords : List Stack := []
  horizontal : HorizontalDashboard := {}
  vertical : VerticalDashboard := {}
  logServices : List LogService := []
  timeline : List TimelineEntry := []
  ports : List PortEntry := []
  untyped : Members := []
  deriving DecidableEq, Repr, Inhabited

namespace Document

abbrev Parts : Type :=
  List Node × List Service × List Task × List Stack × HorizontalDashboard × VerticalDashboard ×
    List LogService × List TimelineEntry × List PortEntry × Members

def fields : Fields Parts :=
  .field (.list "nodes" Node.codec) <|
  .field (.list "services" Service.codec) <|
  .field (.list "tasks" Task.codec) <|
  .field (.list "stacks" Stack.codec) <|
  .field (.withDefault "dashboardh" HorizontalDashboard.codec {}) <|
  .field (.withDefault "dashboardv" VerticalDashboard.codec {}) <|
  .field (.list "ui.logs.services" LogService.codec) <|
  .field (.list "timeline" TimelineEntry.codec) <|
  .field (.list "ports" PortEntry.codec) .rest

def ofParts : Parts → Document
  | (nodes, services, tasks, stackRecords, horizontal, vertical, logServices, timeline, ports,
      untyped) =>
    ⟨nodes, services, tasks, stackRecords, horizontal, vertical, logServices, timeline, ports,
      untyped⟩

def parts (doc : Document) : Parts :=
  (doc.nodes, doc.services, doc.tasks, doc.stackRecords, doc.horizontal, doc.vertical,
    doc.logServices, doc.timeline, doc.ports, doc.untyped)

def codec : Codec Document := (Codec.openRecord "FixtureDocument" fields).imap ofParts parts

def usesHorizontalRoster (doc : Document) : Bool := !doc.horizontal.nodes.isEmpty

/-- The nodes tasks are placed on: those of the horizontal dashboard, or the primary ones if it has
none. -/
def roster (doc : Document) : List Node :=
  if doc.usesHorizontalRoster then doc.horizontal.nodes else doc.nodes

def withRoster (doc : Document) (nodes : List Node) : Document :=
  if doc.usesHorizontalRoster then { doc with horizontal := { doc.horizontal with nodes := nodes } }
  else { doc with nodes := nodes }

def listing (doc : Document) : NodeListing → List Node
  | .primary => doc.nodes
  | .horizontal => doc.horizontal.nodes
  | .vertical => doc.vertical.nodes

def allNodes (doc : Document) : List Node :=
  doc.nodes ++ doc.horizontal.nodes ++ doc.vertical.nodes

def summaries (doc : Document) : List ServiceSummary :=
  doc.horizontal.services ++ doc.vertical.services

def serviceGroupings (doc : Document) : List (String × Option Grouping) :=
  doc.services.map (fun s => (s.id, s.tasks)) ++ doc.summaries.map (fun s => (s.id, s.tasks))

def line (member : String × Json) : List Char :=
  ' ' :: ' ' :: (Json.printString member.1 ++ ':' :: ' ' :: Json.print member.2)

def joinLines : List (List Char) → List Char
  | [] => []
  | [last] => last
  | first :: next :: rest => first ++ ',' :: '\n' :: joinLines (next :: rest)

def layOut (members : Members) : List Char :=
  match members with
  | [] => ['\x7b', '\x7d', '\n']
  | members => '\x7b' :: '\n' :: (joinLines (members.map line) ++ ['\n', '\x7d', '\n'])

def topLevel (doc : Document) : Members := fields.write doc.parts

def text (doc : Document) : String := String.ofList (layOut doc.topLevel)

def parse (text : String) : Except Json.TextProblem Document := codec.decode text

end Document

end MockCluster
