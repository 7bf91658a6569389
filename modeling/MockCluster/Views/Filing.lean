import MockCluster.Document.Layout
import MockCluster.Views.Projection

/-!
The records that hold groupings, and how one more task is filed in all of them.

A record without a grouping is left alone, except that roster nodes and the services of the vertical
dashboard gain one as soon as there is something to file.
-/

namespace MockCluster

namespace Document

/-- Changes the groupings of all node records; `f` is told whether the record may gain one, and the
ID of the record. -/
def mapNodeGroupings (f : Bool → String → Option Grouping → Option Grouping)
    (doc : Document) : Document :=
  let onNode (gains : Bool) (node : Node) : Node :=
    { node with tasks := f gains node.id node.tasks }
  { doc with
    nodes := doc.nodes.map (onNode !doc.usesHorizontalRoster)
    horizontal :=
      { doc.horizontal with
        nodes := doc.horizontal.nodes.map (onNode doc.usesHorizontalRoster) }
    vertical := { doc.vertical with nodes := doc.vertical.nodes.map (onNode false) } }

def mapServiceGroupings (f : Bool → String → Option Grouping → Option Grouping)
    (doc : Document) : Document :=
  let onSummary (gains : Bool) (summary : ServiceSummary) : ServiceSummary :=
    { summary with tasks := f gains summary.id summary.tasks }
  { doc with
    services := doc.services.map fun service =>
      { service with tasks := f false service.id service.tasks }
    horizontal :=
      { doc.horizontal with services := doc.horizontal.services.map (onSummary false) }
    vertical := { doc.vertical with services := doc.vertical.services.map (onSummary true) } }

def nodeGroupings (doc : Document) : List (String × Option Grouping) :=
  doc.allNodes.map fun node => (node.id, node.tasks)

end Document

def fileHeld (gains : Bool) (key : String) (ref : TaskRef) : Option Grouping → Option Grouping
  | some grouping => some (grouping.file key ref)
  | none => if gains then some (Grouping.file ∅ key ref) else none

namespace Document

def fileTask (doc : Document) (task : Task) : Document :=
  match task.serviceId with
  | none => doc
  | some service =>
    let underNode :=
      match task.nodeId with
      | some node => doc.mapNodeGroupings fun gains id held =>
        if id = node then fileHeld gains service task.ref held else held
      | none =>
        { doc with
          horizontal :=
            { doc.horizontal with
              unassigned := doc.horizontal.unassigned ++ [task.unassignedRef] } }
    underNode.mapServiceGroupings fun gains id held =>
      if id = service then fileHeld gains task.nodeKey task.ref held else held

/-- Appends a task to the flat list and files it; the timeline is left as it is. -/
def insertTask (doc : Document) (task : Task) : Document :=
  let filed := doc.fileTask task
  { filed with tasks := filed.tasks ++ [task] }

def regenerateTimeline (doc : Document) : Document :=
  { doc with timeline := projectTimeline doc.tasks }

end Document

end MockCluster
