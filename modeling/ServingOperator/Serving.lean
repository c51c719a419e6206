import ServingOperator.Instant
import ServingOperator.Resource
import ServingOperator.Serving.ConfigSections

namespace ServingOperator

structure HighAvailability where
  replicas : Int32 := 0
deriving DecidableEq, Repr

structure CustomCerts where
  type : String := ""
  name : String := ""
deriving DecidableEq, Repr

def CustomCerts.isEmpty (c : CustomCerts) : Bool := c.type = "" && c.name = ""

structure Registry where
  fallback : String := ""
  overrides : StringMap String := ∅
deriving DecidableEq

def Registry.image? (r : Registry) (component : String) : Option String :=
  match r.overrides.get? component with
  | some image => some image
  | none => if r.fallback = "" then none else some r.fallback

structure ResourceOverride where
  container : String
  requests : Option (StringMap Quantity) := none
  limits : Option (StringMap Quantity) := none
deriving DecidableEq

inductive ServiceType where
  | clusterIP
  | loadBalancer
deriving DecidableEq, Repr

structure BackendSettings where
  enabled : Bool := false
  serviceType : Option ServiceType := none
deriving DecidableEq, Repr

structure IngressBlock where
  istio : BackendSettings := {}
  kourier : BackendSettings := {}
  contour : BackendSettings := {}
deriving DecidableEq, Repr

structure ServingSpec where
  highAvailability : Option HighAvailability := none
  customCerts : CustomCerts := {}
  registry : Registry := {}
  resources : List ResourceOverride := []
  config : ConfigSections := {}
  ingress : Option IngressBlock := none
deriving DecidableEq

structure Condition where
  type : String
  status : String
  reason : Option String := none
  message : Option String := none
  lastTransitionTime : Option String := none
deriving DecidableEq, Repr

structure ServingStatus where
  version : Option String := none
  observedGeneration : Option Int64 := none
  conditions : List Condition := []
deriving DecidableEq, Repr

namespace Condition

def ready : String := "Ready"
def installSucceeded : String := "InstallSucceeded"
def dependenciesInstalled : String := "DependenciesInstalled"

structure Finding where
  status : String
  reason : Option String := none
  message : Option String := none
deriving DecidableEq, Repr

def ofFinding (type : String) (f : Finding) (now : Instant) : Condition :=
  ⟨type, f.status, f.reason, f.message, some now.rfc3339⟩

/-- Overwrites a condition. Its time moves only when its status changes. -/
def update (c : Condition) (f : Finding) (now : Instant) : Condition :=
  { c with
    status := f.status
    reason := f.reason
    message := f.message
    lastTransitionTime := if c.status = f.status then c.lastTransitionTime else some now.rfc3339 }

def record (type : String) (f : Finding) (now : Instant) : List Condition → List Condition
  | [] => [ofFinding type f now]
  | c :: cs => if c.type = type then c.update f now :: cs else c :: record type f now cs

end Condition

namespace ServingStatus

def condition? (s : ServingStatus) (type : String) : Option Condition :=
  s.conditions.find? (·.type = type)

def isFalse (s : ServingStatus) (type : String) : Bool :=
  (s.condition? type).any (·.status = "False")

def setCondition (s : ServingStatus) (type : String) (f : Condition.Finding) (now : Instant) :
    ServingStatus :=
  { s with conditions := Condition.record type f now s.conditions }

def removeCondition (s : ServingStatus) (type : String) : ServingStatus :=
  { s with conditions := s.conditions.filter (·.type ≠ type) }

def markFailed (s : ServingStatus) (type reason message : String) (now : Instant) :
    ServingStatus :=
  let finding : Condition.Finding := ⟨"False", some reason, some message⟩
  (s.setCondition type finding now).setCondition Condition.ready finding now

def markInstallFailed (s : ServingStatus) (reason message : String) (now : Instant) :
    ServingStatus :=
  s.markFailed Condition.installSucceeded reason message now

def markDependencyMissing (s : ServingStatus) (reason message : String) (now : Instant) :
    ServingStatus :=
  s.markFailed Condition.dependenciesInstalled reason message now

def markDependenciesInstalled (s : ServingStatus) (now : Instant) : ServingStatus :=
  s.setCondition Condition.dependenciesInstalled { status := "True" } now

end ServingStatus

abbrev KnativeServing := Resource ServingSpec ServingStatus

def KnativeServing.kind : ResourceKind :=
  ⟨"operator.knative.dev", "v1beta1", "KnativeServing", "knativeservings"⟩

end ServingOperator
