import OpsPilot.Lib.Dict
/-!
# The service topology (`simulator/services/topology.py`)

Of a `ServiceNode` the policy engine only reads `dependencies`.
-/
namespace OpsPilot

/-- topology.py:10 -/
structure ServiceNode where
  name : String
  dependencies : List String := []
deriving DecidableEq

/-- topology.py:64 -/
structure ServiceTopology where
  services : Dict String ServiceNode

namespace ServiceTopology

/-- topology.py:23 -/
def default : ServiceTopology := ⟨Dict.ofList
  [("api-gateway", ⟨"api-gateway", ["auth-service", "order-service", "payment-service"]⟩),
    ("auth-service", ⟨"auth-service", []⟩),
    ("order-service", ⟨"order-service", ["payment-service", "notification-service"]⟩),
    ("payment-service", ⟨"payment-service", ["notification-service"]⟩),
    ("notification-service", ⟨"notification-service", []⟩)]⟩

/-- topology.py:78 -/
def getUpstreamDependents (t : ServiceTopology) (serviceName : String) : List String :=
  (t.services.entries.filter fun e => e.2.dependencies.contains serviceName).map Prod.fst

/-- topology.py:86 -/
def getDownstreamDependencies (t : ServiceTopology) (serviceName : String) : List String :=
  match t.services.get? serviceName with
  | some node => node.dependencies
  | none => []

end ServiceTopology

end OpsPilot
