import MockCluster.Json.Record

/-!
What a run finds and goes on from: repairs it made, references that lead nowhere, IDs listed twice,
and write-backs that failed.
-/

namespace MockCluster

open Json (Codec)

inductive Severity where
  | info
  | warning
  | error
  deriving DecidableEq, Repr, Ord

namespace Severity

def all : List Severity := [.info, .warning, .error]

def label : Severity → String
  | .info => "info"
  | .warning => "warning"
  | .error => "error"

def name : Severity → String
  | .info => "Info"
  | .warning => "Warning"
  | .error => "Error"

def codec : Codec Severity := Codec.variant all name

end Severity

inductive FindingCode where
  /-- A node ID that was also a service ID has been replaced. -/
  | collisionDetected
  | serviceStubBackfilled
  | taskBackfilled
  | duplicateTaskRenamed
  | danglingServiceRef
  | danglingNodeRef
  /-- A node groups its tasks under a service that does not exist. -/
  | danglingGroupingServiceKey
  /-- A service groups its tasks under a node that does not exist. -/
  | danglingGroupingNodeKey
  | duplicateNodeId
  | duplicateServiceId
  | persistenceFailure
  deriving DecidableEq, Repr

namespace FindingCode

def all : List FindingCode :=
  [.collisionDetected, .serviceStubBackfilled, .taskBackfilled, .duplicateTaskRenamed,
    .danglingServiceRef, .danglingNodeRef, .danglingGroupingServiceKey, .danglingGroupingNodeKey,
    .duplicateNodeId, .duplicateServiceId, .persistenceFailure]

def name : FindingCode → String
  | .collisionDetected => "CollisionDetected"
  | .serviceStubBackfilled => "ServiceStubBackfilled"
  | .taskBackfilled => "TaskBackfilled"
  | .duplicateTaskRenamed => "DuplicateTaskRenamed"
  | .danglingServiceRef => "DanglingServiceRef"
  | .danglingNodeRef => "DanglingNodeRef"
  | .danglingGroupingServiceKey => "DanglingGroupingServiceKey"
  | .danglingGroupingNodeKey => "DanglingGroupingNodeKey"
  | .duplicateNodeId => "DuplicateNodeId"
  | .duplicateServiceId => "DuplicateServiceId"
  | .persistenceFailure => "PersistenceFailure"

def label : FindingCode → String
  | .collisionDetected => "I001"
  | .serviceStubBackfilled => "I002"
  | .taskBackfilled => "I003"
  | .duplicateTaskRenamed => "I004"
  | .danglingServiceRef => "W001"
  | .danglingNodeRef => "W002"
  | .danglingGroupingServiceKey => "W003"
  | .danglingGroupingNodeKey => "W004"
  | .duplicateNodeId => "W005"
  | .duplicateServiceId => "W006"
  | .persistenceFailure => "E001"

def severity : FindingCode → Severity
  | .collisionDetected | .serviceStubBackfilled | .taskBackfilled | .duplicateTaskRenamed => .info
  | .danglingServiceRef | .danglingNodeRef | .danglingGroupingServiceKey
  | .danglingGroupingNodeKey | .duplicateNodeId | .duplicateServiceId => .warning
  | .persistenceFailure => .error

def codec : Codec FindingCode := Codec.variant all name

end FindingCode

structure Finding where
  subject : String
  code : FindingCode
  text : String
  context : List String := []
  deriving DecidableEq, Repr

abbrev Findings := List Finding

namespace Finding

def codec : Codec Finding :=
  (Codec.closedRecord "DiagnosticItem" <|
    .field (.required "entity_id" Codec.string) <|
    .field (.required "code" FindingCode.codec) <|
    .field (.required "message" Codec.string) <|
    .field (.listUnlessEmpty "context" Codec.string) .done).imap
    (fun (subject, code, text, context, _) => ⟨subject, code, text, context⟩)
    (fun f => (f.subject, f.code, f.text, f.context, ()))

def severity (finding : Finding) : Severity := finding.code.severity

def message (finding : Finding) : String :=
  "[" ++ finding.code.label ++ "] " ++ finding.severity.label ++ ": " ++ finding.text ++ " (" ++
    finding.subject ++ ")" ++ String.join (finding.context.map fun line => "\n  - " ++ line)

def dangling (taskId : String) (code : FindingCode) (target : String) : Finding where
  subject := taskId
  code := code
  text :=
    (if code = .danglingNodeRef then "NodeID" else "ServiceID") ++ " '" ++ target ++
      "' does not resolve"

def danglingKey (owner : String) (code : FindingCode) (key : String) : Finding :=
  let (what, grouping) :=
    if code = .danglingGroupingNodeKey then ("node", "per-node task grouping of service")
    else ("service", "per-service task grouping of node")
  { subject := owner
    code := code
    text := "Grouping key '" ++ key ++ "' names an unknown " ++ what
    context := [grouping ++ " " ++ owner] }

end Finding

namespace Findings

def codec : Codec Findings :=
  (Codec.closedRecord "Diagnostics" <|
    .field (.required "items" Finding.codec.list) .done).imap
    (fun (items, _) => items)
    (fun items => (items, ()))

def ofSeverity (findings : Findings) (severity : Severity) : Findings :=
  findings.filter fun finding => finding.severity = severity

def warnings (findings : Findings) : Findings := findings.ofSeverity .warning

def errors (findings : Findings) : Findings := findings.ofSeverity .error

def withCode (findings : Findings) (code : FindingCode) : Findings :=
  findings.filter fun finding => finding.code = code

def maxSeverity (findings : Findings) : Option Severity :=
  (Severity.all.filter fun severity => findings.any fun f => f.severity = severity).getLast?

/-- The closing count; there is none for findings that are all informative. -/
def tally (findings : Findings) : String :=
  let warnings := toString findings.warnings.length ++ " warning(s)\n"
  if findings.errors ≠ [] then
    "\n" ++ toString findings.errors.length ++ " error(s), " ++ warnings
  else if findings.warnings ≠ [] then "\n" ++ warnings
  else ""

def message (findings : Findings) : String :=
  String.join (findings.map fun finding => finding.message ++ "\n") ++ findings.tally

end Findings

end MockCluster
