import MockCluster.Json.Record
import MockCluster.Synthesis.Naming

/-!
The settings of a run and what they may not be.
-/

namespace MockCluster

open Json (Codec)

structure SynthesisSettings where
  /-- How many synthetic services there are to be. -/
  serviceCount : Nat := 6
  /-- How many of them get tasks. -/
  taskServices : Nat := 6
  deriving DecidableEq, Repr

structure WriteBackSettings where
  enabled : Bool := false
  backupSuffix : String := "bak"
  tempSuffix : String := "tmp"
  deriving DecidableEq, Repr

structure RepairSettings where
  /-- Give services known only from listings a record. -/
  backfillServiceStubs : Bool := true
  /-- Replace colliding node IDs in untyped data too. -/
  renamesInUntyped : Bool := true
  deriving DecidableEq, Repr

structure Settings where
  documentPath : String := "mock/data.json"
  synthesis : SynthesisSettings := {}
  writeBack : WriteBackSettings := {}
  repair : RepairSettings := {}
  deriving DecidableEq, Repr

namespace Settings

def standard : Settings := {}

def documentCodec : Codec String :=
  (Codec.closedRecord "DocumentConfig" <|
    .field (.withDefault "path" Codec.path standard.documentPath) .done).imap
    (fun (path, _) => path)
    (fun path => (path, ()))

def synthesisCodec : Codec SynthesisSettings :=
  (Codec.closedRecord "SynthesisConfig" <|
    .field (.withDefault "service_count" Codec.count standard.synthesis.serviceCount) <|
    .field (.withDefault "task_services" Codec.count standard.synthesis.taskServices) .done).imap
    (fun (services, tasks, _) => ⟨services, tasks⟩)
    (fun s => (s.serviceCount, s.taskServices, ()))

def writeBackCodec : Codec WriteBackSettings :=
  (Codec.closedRecord "PersistConfig" <|
    .field (.withDefault "enabled" Codec.bool standard.writeBack.enabled) <|
    .field (.withDefault "backup_suffix" Codec.string standard.writeBack.backupSuffix) <|
    .field (.withDefault "temp_suffix" Codec.string standard.writeBack.tempSuffix) .done).imap
    (fun (enabled, backup, temp, _) => ⟨enabled, backup, temp⟩)
    (fun s => (s.enabled, s.backupSuffix, s.tempSuffix, ()))

def repairCodec : Codec RepairSettings :=
  (Codec.closedRecord "RepairConfig" <|
    .field (.withDefault "backfill_service_stubs" Codec.bool
      standard.repair.backfillServiceStubs) <|
    .field (.withDefault "rewrite_unknown_fields" Codec.bool
      standard.repair.renamesInUntyped) .done).imap
    (fun (stubs, untyped, _) => ⟨stubs, untyped⟩)
    (fun s => (s.backfillServiceStubs, s.renamesInUntyped, ()))

def codec : Codec Settings :=
  (Codec.closedRecord "FixtureConfig" <|
    .field (.withDefault "document" documentCodec standard.documentPath) <|
    .field (.withDefault "synthesis" synthesisCodec standard.synthesis) <|
    .field (.withDefault "persist" writeBackCodec standard.writeBack) <|
    .field (.withDefault "repair" repairCodec standard.repair) .done).imap
    (fun (path, synthesis, writeBack, repair, _) => ⟨path, synthesis, writeBack, repair⟩)
    (fun s => (s.documentPath, s.synthesis, s.writeBack, s.repair, ()))

inductive Invalid where
  | tooManyServices (count : Nat)
  | moreTaskServices (tasks services : Nat)
  | emptySuffix
  | equalSuffixes
  deriving DecidableEq, Repr

def Invalid.message : Invalid → String
  | .tooManyServices count =>
    "synthesis.service_count (" ++ toString count ++ ") exceeds " ++
      toString Synthetic.maxServiceCount ++ "; ports past 65535 cannot be assigned"
  | .moreTaskServices tasks services =>
    "synthesis.task_services (" ++ toString tasks ++ ") exceeds synthesis.service_count (" ++
      toString services ++ ")"
  | .emptySuffix => "persist suffixes must not be empty"
  | .equalSuffixes => "persist.backup_suffix and persist.temp_suffix must differ"

def check (settings : Settings) : Except Invalid Unit :=
  let synthesis := settings.synthesis
  let writeBack := settings.writeBack
  if synthesis.serviceCount > Synthetic.maxServiceCount then
    .error (.tooManyServices synthesis.serviceCount)
  else if synthesis.taskServices > synthesis.serviceCount then
    .error (.moreTaskServices synthesis.taskServices synthesis.serviceCount)
  else if writeBack.backupSuffix = "" ∨ writeBack.tempSuffix = "" then .error .emptySuffix
  else if writeBack.backupSuffix = writeBack.tempSuffix then .error .equalSuffixes
  else .ok ()

end Settings

end MockCluster
