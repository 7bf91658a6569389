import MockCluster.Fault
import MockCluster.Pipeline.Run
import MockCluster.Settings.Load
import MockCluster.Settings.Text
import MockCluster.Text.Quoted
import MockCluster.Tool.Arguments

/-!
The command-line tools: synthesis, repair and settings.

A tool works on files and ends in what it prints and an exit code: 0, 1 for a failure, or 2 if the
document could not be written back or the arguments make no sense.
-/

namespace MockCluster

inductive Tool where
  | synthesizer
  | repairer
  | configurator
  deriving DecidableEq, Repr

structure ToolOutput where
  exitCode : Nat := 0
  out : String := ""
  errors : String := ""
  deriving DecidableEq, Repr

namespace Tool

inductive Failure where
  | arguments (fault : ArgumentFault)
  | settings (fault : Settings.LoadFault)
  | invalid (fault : Settings.Invalid)
  | unwritable (fault : Settings.Unwritable)
  | document (path : String) (fault : Fault)
  | diff (fault : Fault)
  | fileExists (path : String)
  | file (fault : FileFault)
  deriving DecidableEq, Repr

def Failure.message : Failure → String
  | .arguments fault => fault.message
  | .settings fault => fault.message
  | .invalid fault => fault.message
  | .unwritable fault => fault.message
  | .document path fault => "loading fixture document " ++ path ++ ": " ++ fault.messageWithCause
  | .diff fault => fault.messageWithCause
  | .fileExists path => path ++ " already exists (use --force to overwrite)"
  | .file fault => fault.message

def Failure.exitCode : Failure → Nat
  | .arguments _ => 2
  | _ => 1

def Failure.output (failure : Failure) : ToolOutput :=
  let start := if failure.exitCode = 2 then "error: " else "Error: "
  { exitCode := failure.exitCode, errors := start ++ failure.message ++ "\n" }

def lines (texts : List String) : String := String.join (texts.map (· ++ "\n"))

def synthesisOptions : List OptionSpec :=
  [⟨"document", some 'd', true⟩, ⟨"config", some 'c', true⟩, ⟨"services", some 's', true⟩,
    ⟨"repair", none, false⟩, ⟨"json", none, false⟩, ⟨"diff", none, false⟩,
    ⟨"write", some 'w', false⟩]

def repairOptions : List OptionSpec :=
  [⟨"document", some 'd', true⟩, ⟨"config", some 'c', true⟩, ⟨"no-stubs", none, false⟩,
    ⟨"json", none, false⟩, ⟨"diff", none, false⟩, ⟨"write", some 'w', false⟩]

def settingsOptions : List OptionSpec :=
  [⟨"config", some 'c', true⟩, ⟨"force", none, false⟩]

def adjust (arguments : Arguments) (settings : Settings) : Except Failure Settings := do
  let settings :=
    if arguments.has "write" then
      { settings with writeBack := { settings.writeBack with enabled := true } }
    else settings
  let settings :=
    if arguments.has "no-stubs" then
      { settings with repair := { settings.repair with backfillServiceStubs := false } }
    else settings
  match arguments.value? "services" with
  | none => return settings
  | some text =>
    match Settings.readWord? text with
    | none => .error (.arguments (.badNumber text))
    | some count =>
      return { settings with
        synthesis := ⟨count, min settings.synthesis.taskServices count⟩ }

def synthesisText (path : String) (summary : RunSummary) : String :=
  let closing :=
    if summary.degraded then ["⚠️  Write-back failed; see diagnostics above"]
    else if summary.persisted.isNone then
      ["ℹ️  Document not written (use --write to persist)"]
    else []
  lines ["📦 Fixture synthesis: " ++ Text.quotePath path, ""] ++ summary.message ++
    lines closing

def collisionLines (report : RepairReport) : List String :=
  if report.collisions.isEmpty then ["✅ No node/service ID collisions"]
  else
    ["🔧 " ++ toString report.collisions.length ++ " collision(s) repaired:"] ++
      report.collisions.map (fun rename => "   " ++ rename.old ++ " -> " ++ rename.new) ++
      report.updates.map fun update =>
        "   └─ " ++ update.kind.name ++ ": " ++ toString update.count ++ " position(s)"

def repairLines (report : RepairReport) : List String :=
  collisionLines report ++
    (if report.backfilled > 0 then
      ["➕ " ++ toString report.backfilled ++
        " task(s) found only in groupings added to the task list"]
    else []) ++
    report.stubs.map fun stub => "➕ Stub service added: " ++ stub

def repairText (path : String) (summary : RunSummary) : String :=
  let warnings := summary.findings.warnings
  lines
    (["🔍 Fixture repair: " ++ Text.quotePath path, ""] ++
      (summary.repair.map repairLines).getD [] ++
      summary.duplicatesRenamed.map (fun rename =>
        "🔧 Duplicate task " ++ rename.old ++ " renamed to " ++ rename.new) ++
      (if warnings.isEmpty then ["✅ All references resolve"]
      else
        ["", "⚠️  " ++ toString warnings.length ++ " unresolved reference(s):"] ++
          warnings.map fun warning => "   " ++ warning.message) ++
      (match summary.persisted with
      | some report =>
        ["", "💾 Written to " ++ Text.quotePath report.path ++ " (" ++
          toString report.bytes ++ " bytes)"]
      | none => []) ++
      summary.findings.errors.map fun finding => "❌ " ++ finding.message)

variable {m : Type → Type} [Monad m] [FileAccess m]

def liftExcept {α : Type} (result : Except Failure α) : ExceptT Failure m α :=
  ExceptT.mk (pure result)

def loadStore (path : String) : ExceptT Failure m Store := do
  match ← Store.load (m := m) path with
  | .error fault => throw (.document path fault)
  | .ok store => return store

def loadSettings (surroundings : Surroundings) (arguments : Arguments) :
    ExceptT Failure m Settings := do
  match ← Settings.load (m := m) surroundings (arguments.value? "config") with
  | .error fault => throw (.settings fault)
  | .ok settings => return settings

def runSettings (surroundings : Surroundings) (arguments : Arguments) :
    ExceptT Failure m Settings := do
  let settings ← loadSettings surroundings arguments
  let settings ← liftExcept (adjust arguments settings)
  match settings.check with
  | .ok () => return settings
  | .error fault => throw (.invalid fault)

def runPlan (plan : Plan) (now : Instant) (surroundings : Surroundings) (arguments : Arguments)
    (unchanged : String) (report : String → RunSummary → String) :
    ExceptT Failure m ToolOutput := do
  let settings ← runSettings surroundings arguments
  let path := (arguments.value? "document").getD (settings.documentFile surroundings)
  let store ← loadStore path
  let (store, summary) := plan.run settings now store
  let diff ←
    if arguments.has "diff" then
      match ← store.diff (m := m) path with
      | .error fault => throw (.diff fault)
      | .ok text => pure (if text = "" then unchanged else text)
    else pure ""
  let summary ← writeBackIfEnabled (m := m) settings.writeBack store summary
  let closing :=
    if arguments.has "json" then summary.toJson.indented ++ "\n" else report path summary
  return { exitCode := summary.exitCode, out := diff ++ closing }

def synthesize (now : Instant) (surroundings : Surroundings) (arguments : Arguments) :
    ExceptT Failure m ToolOutput :=
  runPlan (if arguments.has "repair" then Plan.full else Plan.synthesis) now surroundings
    arguments "No changes\n" synthesisText

def repairDocument (now : Instant) (surroundings : Surroundings) (arguments : Arguments) :
    ExceptT Failure m ToolOutput :=
  runPlan Plan.repair now surroundings arguments "" repairText

def settingsText (settings : Settings) : ExceptT Failure m String :=
  liftExcept (settings.text.mapError .unwritable)

def showSettings (surroundings : Surroundings) (arguments : Arguments) :
    ExceptT Failure m ToolOutput := do
  let settings ← loadSettings surroundings arguments
  return { out := ← settingsText settings }

def initSettings (path : String) (force : Bool) : ExceptT Failure m ToolOutput := do
  if (← FileAccess.fileExists (m := m) path) && !force then throw (.fileExists path)
  match ← FileAccess.writeText (m := m) path (← settingsText Settings.standard) with
  | .error fault => throw (.file fault)
  | .ok () => return { out := "✅ Wrote default configuration to " ++ path ++ "\n" }

def validateSettings (surroundings : Surroundings) (arguments : Arguments) :
    ExceptT Failure m ToolOutput := do
  let settings ← loadSettings surroundings arguments
  match settings.check with
  | .error fault => throw (.invalid fault)
  | .ok () =>
    let path := settings.documentFile surroundings
    if ← FileAccess.fileExists (m := m) path then
      let found := "✅ Configuration valid; document at " ++ Text.quotePath path
      return { out := lines [found] }
    else
      let missing := "⚠️  Document " ++ Text.quotePath path ++ " does not exist yet"
      return { out := lines ["✅ Configuration valid", missing] }

def configure (surroundings : Surroundings) (arguments : Arguments) :
    ExceptT Failure m ToolOutput :=
  match arguments.others with
  | [] => throw (.arguments .missingCommand)
  | ["show"] => showSettings surroundings arguments
  | ["init"] => initSettings "fixtures.toml" (arguments.has "force")
  | ["init", path] => initSettings path (arguments.has "force")
  | ["validate"] => validateSettings surroundings arguments
  | command :: rest =>
    if command ∈ ["show", "init", "validate"] then
      throw (.arguments (.unexpectedArgument ((rest.getLast?).getD "")))
    else throw (.arguments (.unknownCommand command))

def ofName? : String → Option Tool
  | "synthesize" => some .synthesizer
  | "repair" => some .repairer
  | "settings" => some .configurator
  | _ => none

def options : Tool → List OptionSpec
  | .synthesizer => synthesisOptions
  | .repairer => repairOptions
  | .configurator => settingsOptions

/-- Reads arguments; only the settings tool takes any that are no options. -/
def readArguments (tool : Tool) (texts : List String) : Except Failure Arguments := do
  let arguments ← (Arguments.read tool.options texts).mapError .arguments
  match tool, arguments.others with
  | .configurator, _ => return arguments
  | _, [] => return arguments
  | _, text :: _ => .error (.arguments (.unexpectedArgument text))

def run (tool : Tool) (now : Instant) (surroundings : Surroundings) (texts : List String) :
    m ToolOutput := do
  let result ← (do
    let arguments ← liftExcept (readArguments tool texts)
    match tool with
    | .synthesizer => synthesize now surroundings arguments
    | .repairer => repairDocument now surroundings arguments
    | .configurator => configure surroundings arguments : ExceptT Failure m ToolOutput).run
  match result with
  | .ok output => return output
  | .error failure => return failure.output

end Tool

end MockCluster
