import MockCluster.Settings
import MockCluster.Toml.Print

/-!
Settings as the text of a file.
-/

namespace MockCluster.Settings

inductive Unwritable where
  /-- Integers of files have 64 bits and a sign. -/
  | countTooLarge (count : Nat)
  deriving DecidableEq, Repr

def Unwritable.message : Unwritable → String
  | .countTooLarge _ => "out-of-range value for u64 type"

def countText (count : Nat) : Except Unwritable String :=
  if count < twoTo 63 then .ok (toString count) else .error (.countTooLarge count)

def sectionText (name : String) (keys : List (String × String)) : String :=
  "[" ++ name ++ "]\n" ++ String.join (keys.map fun (key, value) => key ++ " = " ++ value ++ "\n")

def text (settings : Settings) : Except Unwritable String := do
  let writeBack := settings.writeBack
  let repair := settings.repair
  let serviceCount ← countText settings.synthesis.serviceCount
  let taskServices ← countText settings.synthesis.taskServices
  return "\n".intercalate
    [sectionText "document" [("path", Toml.printString settings.documentPath)],
      sectionText "synthesis" [("service_count", serviceCount), ("task_services", taskServices)],
      sectionText "persist"
        [("enabled", Toml.printBool writeBack.enabled),
          ("backup_suffix", Toml.printString writeBack.backupSuffix),
          ("temp_suffix", Toml.printString writeBack.tempSuffix)],
      sectionText "repair"
        [("backfill_service_stubs", Toml.printBool repair.backfillServiceStubs),
          ("rewrite_unknown_fields", Toml.printBool repair.renamesInUntyped)]]

end MockCluster.Settings
