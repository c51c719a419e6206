import ServingOperator.Resource

namespace ServingOperator

structure RouteTarget where
  kind : String
  name : String
  weight : Option Int32 := none
deriving DecidableEq, Repr

structure RoutePort where
  target : PortRef
deriving DecidableEq, Repr

inductive Termination where
  | edge
  | passthrough
deriving DecidableEq, Repr

inductive InsecurePolicy where
  | allow
  | redirect
deriving DecidableEq, Repr

structure RouteTLS where
  termination : Termination
  insecurePolicy : Option InsecurePolicy := none
deriving DecidableEq, Repr

inductive WildcardPolicy where
  | none
  | subdomain
deriving DecidableEq, Repr

structure RouteSpec where
  host : String
  target : RouteTarget
  port : Option RoutePort := none
  tls : Option RouteTLS := none
  wildcardPolicy : WildcardPolicy := .none
deriving DecidableEq, Repr

structure RouteAdmission where
  host : String := ""
  routerName : Option String := none
deriving DecidableEq, Repr

structure RouteStatus where
  ingress : List RouteAdmission := []
deriving DecidableEq, Repr

abbrev Route := Resource RouteSpec RouteStatus

namespace Route

def kind : ResourceKind := ⟨"route.openshift.io", "v1", "Route", "routes"⟩

def admittedHost? (r : Route) : Option String :=
  r.status.bind fun s => (s.ingress.find? (·.host ≠ "")).map (·.host)

end Route

namespace Route

def ingressLabel : String := "networking.internal.knative.dev/ingress"
def ownerNameLabel : String := "serving.knative.openshift.io/ingressName"
def ownerNamespaceLabel : String := "serving.knative.openshift.io/ingressNamespace"

structure Owner where
  name : String
  inNamespace : String
deriving DecidableEq, Repr

def owner? (r : Route) : Option Owner := do
  let name ← r.metadata.labelMap.get? ownerNameLabel
  let inNamespace ← r.metadata.labelMap.get? ownerNamespaceLabel
  return ⟨name, inNamespace⟩

def Owner.selector (o : Owner) : String :=
  ownerNameLabel ++ "=" ++ o.name ++ "," ++ ownerNamespaceLabel ++ "=" ++ o.inNamespace

/-- Labels with those that name the owner, whatever they held before. -/
def Owner.mark (o : Owner) (labels : StringMap String) : StringMap String :=
  ((labels.insert ingressLabel o.name).insert ownerNameLabel o.name).insert ownerNamespaceLabel
    o.inNamespace

def key (r : Route) : Option String × Option String := (r.metadata.inNamespace, r.metadata.name)

/-- The existing routes that are not desired, by namespace and name. A route without one of the
    two cannot be addressed and is left out. -/
def stale (existing desired : List Route) : List (String × String) :=
  (existing.filter fun r => !(desired.any fun d => d.key = r.key)).filterMap fun r => do
    return (← r.metadata.inNamespace, ← r.metadata.name)

end Route

end ServingOperator
