import MockCluster.Repair.References
import MockCluster.Repair.Renames
import MockCluster.Repair.Stubs
import MockCluster.Settings
import MockCluster.Views.Backfill

/-!
The repair of references: tasks and services that only views know get records, colliding node IDs
are replaced, and what still leads nowhere is reported and left in place.
-/

namespace MockCluster

structure RepairReport where
  collisions : List Rename := []
  updates : List Update := []
  stubs : List String := []
  /-- How many tasks only a grouping knew. -/
  backfilled : Nat := 0
  findings : Findings := []
  deriving DecidableEq, Repr

namespace RepairReport

def positionCount (report : RepairReport) : Nat :=
  report.updates.foldl (fun total update => total + update.count) 0

def collisionJson (rename : Rename) : Json :=
  .object [("old_id", .string rename.old), ("new_id", .string rename.new)]

def updateJson (update : Update) : Json :=
  .object
    [("kind", .string update.kind.name), ("from", .string update.rename.old),
      ("to", .string update.rename.new), ("count", .ofNat update.count)]

def toJson (report : RepairReport) : Json :=
  .object
    [("collisions", .array (report.collisions.map collisionJson)),
      ("updated", .array (report.updates.map updateJson)),
      ("stubs", .array (report.stubs.map .string)),
      ("backfilled", .ofNat report.backfilled),
      ("diagnostics", Findings.codec.write report.findings)]

end RepairReport

def Finding.collision (rename : Rename) (positions : Nat) : Finding where
  subject := rename.old
  code := .collisionDetected
  text :=
    "Node ID '" ++ rename.old ++ "' is also a service ID; node renamed to '" ++ rename.new ++ "'"
  context := [toString positions ++ " node-ID position(s) rewritten"]

namespace Store

def backfillTasks (store : Store) : Store :=
  if store.doc.unlistedTasks.isEmpty then store else (store.modify Document.backfill).reindex

def renameNodes (store : Store) (renames : List Rename) (untyped : Bool) : Store × List Hit :=
  if renames.isEmpty then (store, [])
  else
    let (doc, hits) := Renames.apply renames untyped store.doc
    ((store.modify fun _ => doc).reindex, hits)

def repair (store : Store) (settings : RepairSettings) : Store × RepairReport :=
  let listed := store.backfillTasks
  let stubs := if settings.backfillServiceStubs then listed.unrecordedServices else []
  let recorded := if settings.backfillServiceStubs then listed.addStubs else listed
  let renames := recorded.plannedRenames
  let (renamed, hits) := recorded.renameNodes renames settings.renamesInUntyped
  (renamed,
    { collisions := renames
      updates := Renames.updates renames hits
      stubs := stubs
      backfilled := store.doc.unlistedTasks.length
      findings :=
        store.doc.unlistedTasks.map Finding.backfilled ++ stubs.map Finding.stubAdded ++
          renames.map (fun rename => Finding.collision rename (Renames.total hits rename.old)) ++
          renamed.referenceFindings })

end Store

end MockCluster
