import MockCluster.Document.Task

/-!
Cluster nodes, with the references to their tasks grouped by service.
-/

namespace MockCluster

open Json (Codec)

structure Node where
  id : String := ""
  hostname : Option String := none
  name : Option String := none
  tasks : Option Grouping := none
  untyped : Members := []
  deriving DecidableEq, Repr, Inhabited

def Node.codec : Codec Node :=
  (Codec.openRecord "Node" <|
    .field (.string "ID") <|
    .field (.optionalString "Hostname") <|
    .field (.optionalString "Name") <|
    .field (.optional "Tasks" Grouping.codec) .rest).imap
    (fun (id, hostname, name, tasks, untyped) => ⟨id, hostname, name, tasks, untyped⟩)
    (fun n => (n.id, n.hostname, n.name, n.tasks, n.untyped))

def Node.displayName (node : Node) : String :=
  (node.hostname.filter (· ≠ "") <|> node.name).getD ""

inductive NodeListing where
  | primary
  | horizontal
  | vertical
  deriving DecidableEq, Repr

namespace NodeListing

def all : List NodeListing := [.primary, .horizontal, .vertical]

def name : NodeListing → String
  | .primary => "Primary"
  | .horizontal => "Horizontal"
  | .vertical => "Vertical"

def codec : Codec NodeListing := Codec.variant all name

end NodeListing

end MockCluster
