/-!
Synthetic services are numbered from one; a number settles their ID, name, stack and port number.
-/

namespace MockCluster.Synthetic

def baseNames : List String :=
  ["auth-service", "user-service", "payment-service", "email-service", "analytics-service",
    "cache-service"]

def stackNames : List String := ["backend", "frontend", "infra"]

/-- The service with number `i` publishes this port number and `i`. -/
def basePort : Nat := 8000

def maxPort : Nat := 65535

def maxServiceCount : Nat := maxPort - basePort

def portNumber? (i : Nat) : Option Nat :=
  if basePort + i ≤ maxPort then some (basePort + i) else none

def serviceId (i : Nat) : String := "gensvc" ++ toString i

/-- Stacks go round by three. -/
def stackName (i : Nat) : String :=
  stackNames.getD ((i - 1) % stackNames.length) ""

/-- Names go round by six, each behind its stack. -/
def serviceName (i : Nat) : String :=
  stackName i ++ "_" ++ baseNames.getD ((i - 1) % baseNames.length) ""

end MockCluster.Synthetic
