import ServingOperator.Serving
import ServingOperator.Wire.Format

namespace ServingOperator

def HighAvailability.format : Format HighAvailability :=
  .image
    (.record .refused [] <|
      .cons "replicas" (some "Replicas for every HA-capable deployment") (.orElse .int32 0) .nil)
    (fun (replicas, ()) => { replicas })
    (fun h => (h.replicas, ()))
    (fun _ => rfl)

def CustomCerts.format : Format CustomCerts :=
  .image
    (.record .refused [] <|
      .cons "type" (some "Kind of object holding the certificates: \"ConfigMap\" or \"Secret\"")
        (.orElse .text "") <|
      .cons "name" (some "Name of the object holding the certificates") (.orElse .text "") .nil)
    (fun (type, name, ()) => { type, name })
    (fun c => (c.type, c.name, ()))
    (fun _ => rfl)

def Registry.format : Format Registry :=
  .image
    (.record .refused [] <|
      .cons "default" (some "Image used for any component without its own override")
        .textIfAny <|
      .cons "override" (some "Component (or container) name to image") (.dictIfAny .text) .nil)
    (fun (fallback, overrides, ()) => { fallback, overrides })
    (fun r => (r.fallback, r.overrides, ()))
    (fun _ => rfl)

def ResourceOverride.format : Format ResourceOverride :=
  .image
    (.record .refused [] <|
      .cons "container" (some "Name of the container the override applies to")
        (.required .text) <|
      .cons "requests" none (.optional (.dict .quantity)) <|
      .cons "limits" none (.optional (.dict .quantity)) .nil)
    (fun (container, requests, limits, ()) => { container, requests, limits })
    (fun r => (r.container, r.requests, r.limits, ()))
    (fun _ => rfl)

def ConfigSections.format : Format ConfigSections :=
  .image (.dict (.dict .text)) (fun sections => { sections }) (·.sections) (fun _ => rfl)

def ServiceType.name : ServiceType → String
  | clusterIP => "ClusterIP"
  | loadBalancer => "LoadBalancer"

def ServiceType.format : Format ServiceType :=
  .choice [.clusterIP, .loadBalancer] ServiceType.name (by intro a; cases a <;> decide)

def BackendSettings.format : Format BackendSettings :=
  .image
    (.record .refused [] <|
      .cons "enabled" none (.orElse .flag false) <|
      .cons "service-type" (some "How the backend's gateway service is exposed")
        (.optional ServiceType.format) .nil)
    (fun (enabled, serviceType, ()) => { enabled, serviceType })
    (fun b => (b.enabled, b.serviceType, ()))
    (fun _ => rfl)

def IngressBlock.format : Format IngressBlock :=
  .described "Ingress backends, in declaration order" <|
  .image
    (.record .refused [] <|
      .cons "istio" none (.orElse BackendSettings.format {}) <|
      .cons "kourier" none (.orElse BackendSettings.format {}) <|
      .cons "contour" none (.orElse BackendSettings.format {}) .nil)
    (fun (istio, kourier, contour, ()) => { istio, kourier, contour })
    (fun b => (b.istio, b.kourier, b.contour, ()))
    (fun _ => rfl)

def ServingSpec.format : Format ServingSpec :=
  .described ("KnativeServing describes one installation of the serving platform\n\n" ++
    "The operator fills in everything the user left out and reports\n" ++
    "installation gates (platform version, install namespace) on the status.") <|
  .image
    (.record .refused [] <|
      .cons "high-availability"
        (some "High-availability settings for the control plane deployments")
        (.optional HighAvailability.format) <|
      .cons "controller-custom-certs"
        (some "Certificates the controller trusts when talking to registries")
        (.orElse CustomCerts.format {}) <|
      .cons "registry" (some "Image registry overrides") (.orElse Registry.format {}) <|
      .cons "resources" (some "Per-container resource requirement overrides")
        (.listIfAny ResourceOverride.format) <|
      .cons "config" (some "Configuration sections, rendered into one ConfigMap per section")
        (.defaulted ConfigSections.format {} ConfigSections.isEmpty fun _ h =>
          congrArg ConfigSections.mk (StringMap.ext (List.isEmpty_iff.mp h))) <|
      .cons "ingress" (some "Ingress backends; exactly one is active once resolved")
        (.optional IngressBlock.format) .nil)
    (fun (highAvailability, customCerts, registry, resources, config, ingress, ()) =>
      { highAvailability, customCerts, registry, resources, config, ingress })
    (fun s => (s.highAvailability, s.customCerts, s.registry, s.resources, s.config, s.ingress,
      ()))
    (fun _ => rfl)

def Condition.format : Format Condition :=
  .described "A status condition in the usual Kubernetes shape" <|
  .image
    (.record .refused [] <|
      .cons "type" none (.required .text) <|
      .cons "status" (some "\"True\", \"False\" or \"Unknown\"") (.required .text) <|
      .cons "reason" none (.optional .text) <|
      .cons "message" none (.optional .text) <|
      .cons "lastTransitionTime" (some "RFC3339 timestamp of the last status flip")
        (.optional .text) .nil)
    (fun (type, status, reason, message, lastTransitionTime, ()) =>
      { type, status, reason, message, lastTransitionTime })
    (fun c => (c.type, c.status, c.reason, c.message, c.lastTransitionTime, ()))
    (fun _ => rfl)

def ServingStatus.format : Format ServingStatus :=
  .image
    (.record .refused [] <|
      .cons "version" (some "Installed platform version") (.optional .text) <|
      .cons "observedGeneration" none (.optional .int64) <|
      .cons "conditions" none (.listIfAny Condition.format) .nil)
    (fun (version, observedGeneration, conditions, ()) =>
      { version, observedGeneration, conditions })
    (fun s => (s.version, s.observedGeneration, s.conditions, ()))
    (fun _ => rfl)

def KnativeServing.format : Format KnativeServing :=
  Resource.format KnativeServing.kind ServingSpec.format ServingStatus.format

end ServingOperator
