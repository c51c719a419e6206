import ServingOperator.OperatorConfig
import ServingOperator.Serving
import ServingOperator.Serving.Backend
import ServingOperator.Serving.Defaults
import ServingOperator.Serving.Observability
import ServingOperator.Text.Quoted
import ServingOperator.Version

namespace ServingOperator

inductive NamespaceCheck where
  | allowed
  | mismatch (required : String)
deriving DecidableEq, Repr

namespace NamespaceCheck

def reason : String := "NamespaceMismatch"

def of (actual required : Option String) : NamespaceCheck :=
  match required with
  | some name => if actual = some name then allowed else mismatch name
  | none => allowed

def message? : NamespaceCheck → Option String
  | allowed => none
  | mismatch required =>
    some ("Knative Serving must be installed into the namespace " ++ Text.quoted required)

/-- Writes the outcome to a status. A passing check takes back only what a failing one wrote. -/
def record (check : NamespaceCheck) (status : ServingStatus) (now : Instant) : ServingStatus :=
  match check.message? with
  | some message => status.markInstallFailed reason message now
  | none =>
    if (status.condition? Condition.installSucceeded).any (·.reason = some reason) then
      status.removeCondition Condition.installSucceeded
    else status

end NamespaceCheck

structure Facts where
  version : String := ""
  domain : Option String := none
  loggingHost : Option String := none
deriving DecidableEq, Repr

def gateReasons : List String := ["VersionTooLow", "VersionUnparsable", NamespaceCheck.reason]

def Condition.isFromGate (c : Condition) : Bool := c.reason.any gateReasons.contains

def Condition.isGateFailure (c : Condition) : Bool := c.status = "False" && c.isFromGate

structure Resolution where
  spec : ServingSpec
  status : ServingStatus
  backend : Backend
  monitoring : MonitoringDecision
deriving DecidableEq

def Resolution.isBlocked (r : Resolution) : Bool := r.status.conditions.any (·.isGateFailure)

namespace ServingStatus

/-- Records the version gate. Passing takes back only what the gates wrote. -/
def recordVersion (status : ServingStatus) (check : Except VersionError Unit) (now : Instant) :
    ServingStatus :=
  match check with
  | .ok () =>
    if (status.condition? Condition.dependenciesInstalled).any (·.isGateFailure) then
      status.markDependenciesInstalled now
    else status
  | .error e => status.markDependencyMissing e.reason e.message now

def clearReady (status : ServingStatus) : ServingStatus :=
  if (status.condition? Condition.ready).any (·.isFromGate) then
    status.removeCondition Condition.ready
  else status

def observe (status : ServingStatus) (generation : Option Int64) : ServingStatus :=
  { status with observedGeneration := generation.or status.observedGeneration }

def resolve (status : ServingStatus) (version : Except VersionError Unit)
    (check : NamespaceCheck) (generation : Option Int64) (now : Instant) : ServingStatus :=
  let status := check.record (status.recordVersion version now) now
  let passed := version.isOk && check = .allowed
  (if passed then status.clearReady else status).observe generation

end ServingStatus

structure ResolvedSpec where
  spec : ServingSpec
  backend : Backend
  monitoring : MonitoringDecision
deriving DecidableEq

def ServingSpec.resolve (spec : ServingSpec) (images : StringMap String)
    (domain loggingHost : Option String) (monitoring : Option Bool) : ResolvedSpec :=
  let (backend, spec) := (spec.applyDefaults images domain).resolveIngress
  let (_, config) := spec.config.applyLogging loggingHost
  let (decision, config) := config.applyMonitoring monitoring
  ⟨{ spec with config }, backend, decision⟩

def KnativeServing.resolve (serving : KnativeServing) (facts : Facts) (config : OperatorConfig)
    (now : Instant) : Resolution :=
  let resolved := serving.spec.resolve config.images facts.domain facts.loggingHost
    config.monitoring
  let status := (serving.status.getD {}).resolve
    (Version.checkMinimum facts.version config.minimumVersion)
    (NamespaceCheck.of serving.metadata.inNamespace config.requiredNamespace)
    serving.metadata.generation now
  ⟨resolved.spec, status, resolved.backend, resolved.monitoring⟩

end ServingOperator
