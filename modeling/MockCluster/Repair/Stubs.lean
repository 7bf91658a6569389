import MockCluster.Findings
import MockCluster.Store

/-!
Services that only a listing knows, and the records they are given.
-/

namespace MockCluster

namespace Document

/-- What the listings call a service: dashboards first, then the log viewer, then stacks. -/
def listedName (doc : Document) (id : String) : Option String :=
  (doc.summaries.filter (·.id = id)).findSome? ServiceSummary.name <|>
    (doc.logServices.filter (·.id = id)).findSome? LogService.name <|>
      doc.stackRecords.findSome? fun stack =>
        (stack.services.filter (·.id = id)).findSome? StackService.serviceName

def listedStack (doc : Document) (id : String) : Option String :=
  (doc.summaries.filter (·.id = id)).findSome? ServiceSummary.stack <|>
    doc.stackRecords.findSome? fun stack =>
      if stack.services.any (·.id = id) then some stack.name else none

def stubOf (doc : Document) (id : String) : Service :=
  Service.stub id (doc.listedName id) (doc.listedStack id)

end Document

namespace Store

/-- The service IDs without a record, in the order the listings mention them. -/
def unrecordedServices (store : Store) : List String :=
  (store.index.knownIds .service).filter fun id => !store.contains .service id

def addStubs (store : Store) : Store :=
  if store.unrecordedServices.isEmpty then store
  else
    let stubs := store.unrecordedServices.map store.doc.stubOf
    (store.modify fun doc => { doc with services := doc.services ++ stubs }).reindex

end Store

def Finding.stubAdded (id : String) : Finding where
  subject := id
  code := .serviceStubBackfilled
  text := "Service listed but missing from services; stub record added"

end MockCluster
