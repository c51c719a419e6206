import ServingOperator.Serving
import ServingOperator.Serving.ConfigSections

namespace ServingOperator

inductive Backend where
  | istio
  | kourier
  | contour
deriving DecidableEq, Repr

namespace Backend

def all : List Backend := [istio, kourier, contour]

def reference : Backend := kourier

def name : Backend → String
  | istio => "istio"
  | kourier => "kourier"
  | contour => "contour"

def ofName? (s : String) : Option Backend := all.find? (·.name = s)

def ingressClass (b : Backend) : String := b.name ++ ".ingress.networking.knative.dev"

def isMesh (b : Backend) : Bool := b = istio

end Backend

namespace IngressBlock

def settings (block : IngressBlock) : Backend → BackendSettings
  | .istio => block.istio
  | .kourier => block.kourier
  | .contour => block.contour

def map (f : Backend → BackendSettings → BackendSettings) (block : IngressBlock) : IngressBlock :=
  ⟨f .istio block.istio, f .kourier block.kourier, f .contour block.contour⟩

/-- Enables one backend alone; its gateway is internal unless it says otherwise. -/
def select (block : IngressBlock) (backend : Backend) : IngressBlock :=
  block.map fun b settings =>
    if b = backend then ⟨true, some (settings.serviceType.getD .clusterIP)⟩
    else { settings with enabled := false }

theorem settings_map (f : Backend → BackendSettings → BackendSettings) (block : IngressBlock)
    (b : Backend) : (block.map f).settings b = f b (block.settings b) := by
  cases b <;> rfl

end IngressBlock

def Backend.selected (block : Option IngressBlock) : Backend :=
  (block.bind fun block => Backend.all.reverse.find? fun b => (block.settings b).enabled).getD
    Backend.reference

/-- Writes the ingress class of a backend. A mesh replaces what the user wrote and turns the
    metrics backend off; any other only fills a gap. -/
def ConfigSections.applyBackend (config : ConfigSections) (backend : Backend) : ConfigSections :=
  if backend.isMesh then
    (config.set ConfigKey.network ConfigKey.ingressClass backend.ingressClass).set
      ConfigKey.observability ConfigKey.metricsBackend ConfigKey.noBackend
  else config.fill ConfigKey.network ConfigKey.ingressClass backend.ingressClass

namespace ServingSpec

def writeBackend (spec : ServingSpec) (backend : Backend) : ServingSpec :=
  { spec with
    ingress := some ((spec.ingress.getD {}).select backend)
    config := spec.config.applyBackend backend }

def resolveIngress (spec : ServingSpec) : Backend × ServingSpec :=
  let backend := Backend.selected spec.ingress
  (backend, spec.writeBackend backend)

end ServingSpec

end ServingOperator
