import MockCluster.Calendar
import MockCluster.Store
import MockCluster.Synthesis.Naming

/-!
Synthetic services, entered in every list that names services.

Each list is extended under a test of its own, so a service that is already in some of them is added
to the others only.
-/

namespace MockCluster

namespace Synthetic

def portSpec (i : Nat) : PortSpec where
  protocol := some "tcp"
  targetPort := portNumber? i
  publishedPort := portNumber? i
  publishMode := some "ingress"

def service (i : Nat) : Service where
  id := serviceId i
  name := some (serviceName i)
  stack := some (stackName i)
  replication := some "1"
  spec := some
    { name := some (serviceName i), labels := Service.stackLabels (some (stackName i)) }
  endpoint := some { ports := [portSpec i], spec := some { ports := [portSpec i] } }
  untyped := [("Version", .object [("Index", .ofNat 1)])]

def portEntry (i : Nat) : PortEntry where
  publishedPort := portNumber? i
  targetPort := portNumber? i
  protocol := some "tcp"
  publishMode := some "ingress"
  serviceName := some (serviceName i)
  serviceId := some (serviceId i)
  stack := some (stackName i)

def horizontalSummary (i : Nat) : ServiceSummary where
  id := serviceId i
  name := some (serviceName i)
  stack := some (stackName i)

def verticalSummary (i : Nat) : ServiceSummary :=
  { horizontalSummary i with replication := some "1", tasks := some ∅ }

def logService (i : Nat) : LogService where
  id := serviceId i
  name := some (serviceName i)

/-- The short name is the name without its separators. -/
def stackService (created : String) (i : Nat) : StackService where
  id := serviceId i
  serviceName := some (serviceName i)
  shortName := some (String.ofList ((serviceName i).toList.filter fun c => c ≠ '-' && c ≠ '_'))
  replication := some "1"
  created := some created
  updated := some created

/-- Enters a service in the first stack of a name, which is opened if there is none. -/
def enterStack (name : String) (entry : StackService) : List Stack → List Stack
  | [] => [{ name := name, services := [entry] }]
  | stack :: rest =>
    if stack.name = name then
      if stack.services.any (·.id = entry.id) then stack :: rest
      else { stack with services := stack.services ++ [entry] } :: rest
    else stack :: enterStack name entry rest

def absent (ids : List String) (numbers : List Nat) : List Nat :=
  let present := IdSet.ofList ids
  numbers.filter fun i => !present.contains (serviceId i)

end Synthetic

namespace Document

open Synthetic in
def addSynthetic (now : Instant) (numbers : List Nat) (doc : Document) : Document :=
  { doc with
    services := doc.services ++ numbers.map service
    ports := doc.ports ++ (absent (doc.ports.filterMap PortEntry.serviceId) numbers).map portEntry
    horizontal :=
      { doc.horizontal with
        services := doc.horizontal.services ++
          (absent (doc.horizontal.services.map ServiceSummary.id) numbers).map
            horizontalSummary }
    vertical :=
      { doc.vertical with
        services := doc.vertical.services ++
          (absent (doc.vertical.services.map ServiceSummary.id) numbers).map verticalSummary }
    logServices := doc.logServices ++
      (absent (doc.logServices.map LogService.id) numbers).map logService
    stackRecords := numbers.foldl (fun stackRecords i =>
      enterStack (stackName i) (stackService (now.timestamp 0) i) stackRecords) doc.stackRecords }

end Document

namespace Store

/-- The numbers up to a count whose services have no record.  Numbers without a port number are left out. -/
def missingSynthetic (store : Store) (count : Nat) : List Nat :=
  (List.range' 1 (min count Synthetic.maxServiceCount)).filter fun i =>
    !store.contains .service (Synthetic.serviceId i)

def ensureServices (store : Store) (now : Instant) (count : Nat) : Store × List String :=
  let numbers := store.missingSynthetic count
  if numbers.isEmpty then (store, [])
  else
    ((store.modify (Document.addSynthetic now numbers)).reindex,
      numbers.map Synthetic.serviceId)

end Store

end MockCluster
