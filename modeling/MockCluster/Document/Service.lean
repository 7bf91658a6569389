import MockCluster.Document.Task

/-!
Services and everything that lists them: dashboards, the log viewer, stacks and ports.
-/

namespace MockCluster

open Json (Codec)

structure PortSpec where
  protocol : Option String := none
  targetPort : Option Nat := none
  publishedPort : Option Nat := none
  publishMode : Option String := none
  untyped : Members := []
  deriving DecidableEq, Repr, Inhabited

def PortSpec.codec : Codec PortSpec :=
  (Codec.openRecord "PortSpec" <|
    .field (.optionalString "Protocol") <|
    .field (.optional "TargetPort" Codec.word32) <|
    .field (.optional "PublishedPort" Codec.word32) <|
    .field (.optionalString "PublishMode") .rest).imap
    (fun (protocol, targetPort, publishedPort, publishMode, untyped) =>
      ⟨protocol, targetPort, publishedPort, publishMode, untyped⟩)
    (fun p => (p.protocol, p.targetPort, p.publishedPort, p.publishMode, p.untyped))

structure EndpointSpec where
  ports : List PortSpec := []
  untyped : Members := []
  deriving DecidableEq, Repr, Inhabited

def EndpointSpec.codec : Codec EndpointSpec :=
  (Codec.openRecord "EndpointSpec" <|
    .field (.listUnlessEmpty "Ports" PortSpec.codec) .rest).imap
    (fun (ports, untyped) => ⟨ports, untyped⟩)
    (fun e => (e.ports, e.untyped))

structure Endpoint where
  ports : List PortSpec := []
  spec : Option EndpointSpec := none
  untyped : Members := []
  deriving DecidableEq, Repr, Inhabited

def Endpoint.codec : Codec Endpoint :=
  (Codec.openRecord "Endpoint" <|
    .field (.listUnlessEmpty "Ports" PortSpec.codec) <|
    .field (.optional "Spec" EndpointSpec.codec) .rest).imap
    (fun (ports, spec, untyped) => ⟨ports, spec, untyped⟩)
    (fun e => (e.ports, e.spec, e.untyped))

structure ServiceSpec where
  name : Option String := none
  labels : Members := []
  untyped : Members := []
  deriving DecidableEq, Repr, Inhabited

def ServiceSpec.codec : Codec ServiceSpec :=
  (Codec.openRecord "ServiceSpec" <|
    .field (.optionalString "Name") <|
    .field ⟨"Labels", Codec.members, some [], fun labels => !labels.isEmpty⟩ .rest).imap
    (fun (name, labels, untyped) => ⟨name, labels, untyped⟩)
    (fun s => (s.name, s.labels, s.untyped))

structure Service where
  id : String := ""
  name : Option String := none
  stack : Option String := none
  replication : Option String := none
  spec : Option ServiceSpec := none
  endpoint : Option Endpoint := none
  tasks : Option Grouping := none
  untyped : Members := []
  deriving DecidableEq, Repr, Inhabited

def Service.codec : Codec Service :=
  (Codec.openRecord "Service" <|
    .field (.string "ID") <|
    .field (.optionalString "Name") <|
    .field (.optionalString "Stack") <|
    .field (.optionalString "Replication") <|
    .field (.optional "Spec" ServiceSpec.codec) <|
    .field (.optional "Endpoint" Endpoint.codec) <|
    .field (.optional "Tasks" Grouping.codec) .rest).imap
    (fun (id, name, stack, replication, spec, endpoint, tasks, untyped) =>
      ⟨id, name, stack, replication, spec, endpoint, tasks, untyped⟩)
    (fun s => (s.id, s.name, s.stack, s.replication, s.spec, s.endpoint, s.tasks, s.untyped))

namespace Service

def stackLabel : String := "com.docker.stack.namespace"

def stackLabels (stack : Option String) : Members :=
  match stack with
  | some stack => [(stackLabel, .string stack)]
  | none => []

def stub (id : String) (name stack : Option String) : Service where
  id := id
  name := name
  stack := stack
  spec := some { name := name, labels := stackLabels stack }

/-- The stack a service belongs to, else the one its label names. -/
def stackName (service : Service) : Option String :=
  service.stack.filter (· ≠ "") <|>
    service.spec.bind fun spec => (spec.labels.get? stackLabel).bind Json.asString?

end Service

structure ServiceSummary where
  id : String := ""
  name : Option String := none
  stack : Option String := none
  replication : Option String := none
  tasks : Option Grouping := none
  untyped : Members := []
  deriving DecidableEq, Repr, Inhabited

def ServiceSummary.codec : Codec ServiceSummary :=
  (Codec.openRecord "ServiceSummary" <|
    .field (.string "ID") <|
    .field (.optionalString "Name") <|
    .field (.optionalString "Stack") <|
    .field (.optionalString "Replication") <|
    .field (.optional "Tasks" Grouping.codec) .rest).imap
    (fun (id, name, stack, replication, tasks, untyped) =>
      ⟨id, name, stack, replication, tasks, untyped⟩)
    (fun s => (s.id, s.name, s.stack, s.replication, s.tasks, s.untyped))

structure LogService where
  id : String := ""
  name : Option String := none
  untyped : Members := []
  deriving DecidableEq, Repr, Inhabited

def LogService.codec : Codec LogService :=
  (Codec.openRecord "LogService" <|
    .field (.string "ID") <|
    .field (.optionalString "Name") .rest).imap
    (fun (id, name, untyped) => ⟨id, name, untyped⟩)
    (fun s => (s.id, s.name, s.untyped))

structure StackService where
  id : String := ""
  serviceName : Option String := none
  shortName : Option String := none
  replication : Option String := none
  created : Option String := none
  updated : Option String := none
  untyped : Members := []
  deriving DecidableEq, Repr, Inhabited

def StackService.codec : Codec StackService :=
  (Codec.openRecord "StackService" <|
    .field (.string "ID") <|
    .field (.optionalString "ServiceName") <|
    .field (.optionalString "ShortName") <|
    .field (.optionalString "Replication") <|
    .field (.optionalString "Created") <|
    .field (.optionalString "Updated") .rest).imap
    (fun (id, serviceName, shortName, replication, created, updated, untyped) =>
      ⟨id, serviceName, shortName, replication, created, updated, untyped⟩)
    (fun s => (s.id, s.serviceName, s.shortName, s.replication, s.created, s.updated, s.untyped))

structure Stack where
  name : String := ""
  services : List StackService := []
  untyped : Members := []
  deriving DecidableEq, Repr, Inhabited

def Stack.codec : Codec Stack :=
  (Codec.openRecord "Stack" <|
    .field (.string "Name") <|
    .field (.list "Services" StackService.codec) .rest).imap
    (fun (name, services, untyped) => ⟨name, services, untyped⟩)
    (fun s => (s.name, s.services, s.untyped))

structure PortEntry where
  publishedPort : Option Nat := none
  targetPort : Option Nat := none
  protocol : Option String := none
  publishMode : Option String := none
  serviceName : Option String := none
  serviceId : Option String := none
  stack : Option String := none
  untyped : Members := []
  deriving DecidableEq, Repr, Inhabited

def PortEntry.codec : Codec PortEntry :=
  (Codec.openRecord "PortEntry" <|
    .field (.optional "PublishedPort" Codec.word32) <|
    .field (.optional "TargetPort" Codec.word32) <|
    .field (.optionalString "Protocol") <|
    .field (.optionalString "PublishMode") <|
    .field (.optionalString "ServiceName") <|
    .field (.optionalString "ServiceID") <|
    .field (.optionalString "Stack") .rest).imap
    (fun (publishedPort, targetPort, protocol, publishMode, serviceName, serviceId, stack,
        untyped) =>
      ⟨publishedPort, targetPort, protocol, publishMode, serviceName, serviceId, stack, untyped⟩)
    (fun p => (p.publishedPort, p.targetPort, p.protocol, p.publishMode, p.serviceName,
      p.serviceId, p.stack, p.untyped))

end MockCluster
