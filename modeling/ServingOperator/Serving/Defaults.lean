import ServingOperator.Serving
import ServingOperator.Serving.ConfigSections

namespace ServingOperator

def ResourceOverride.put (entry : ResourceOverride) :
    List ResourceOverride → List ResourceOverride
  | [] => [entry]
  | e :: es => if e.container = entry.container then entry :: es else e :: entry.put es

namespace ResourceOverride

def webhook : ResourceOverride :=
  { container := "webhook", limits := some (StringMap.ofList [("memory", ⟨"1024Mi"⟩)]) }

/-- One entry for each container: the last, at the place of the first. -/
def collapse (entries : List ResourceOverride) : List ResourceOverride :=
  entries.foldl (fun merged e => e.put merged) []

def normalize (entries : List ResourceOverride) : List ResourceOverride :=
  let merged := collapse entries
  if merged.any (·.container = webhook.container) then merged else merged ++ [webhook]

end ResourceOverride

def Registry.fallbackComponent : String := "default"

/-- Operator images replace the user's, and one of them the fallback. -/
def Registry.overrideWith (registry : Registry) (images : StringMap String) : Registry where
  fallback := (images.get? Registry.fallbackComponent).getD registry.fallback
  overrides := registry.overrides.insertAll images

namespace ConfigSections

def applySidecarImage (config : ConfigSections) (images : StringMap String) : ConfigSections :=
  match images.get? "queue-proxy" with
  | some image => config.fill ConfigKey.deployment ConfigKey.queueSidecarImage image
  | none => config

def applyNetwork (config : ConfigSections) (domain : Option String) : ConfigSections :=
  let config := config.fill ConfigKey.network ConfigKey.domainTemplate
    "\x7b\x7b.Name\x7d\x7d-\x7b\x7b.Namespace\x7d\x7d.\x7b\x7b.Domain\x7d\x7d"
  let config := config.fill ConfigKey.network ConfigKey.autocreateDomainClaims "true"
  let config := config.fill ConfigKey.network ConfigKey.defaultExternalScheme "https"
  match domain with
  | some domain => if domain = "" then config else config.fill ConfigKey.domain domain ""
  | none => config

end ConfigSections

namespace ServingSpec

def defaultHighAvailability (spec : ServingSpec) : ServingSpec :=
  let block := spec.highAvailability.getD {}
  { spec with highAvailability := some (if block.replicas = 0 then { replicas := 2 } else block) }

def defaultCustomCerts (spec : ServingSpec) : ServingSpec :=
  if spec.customCerts.isEmpty then
    { spec with customCerts := { type := "ConfigMap", name := "config-service-ca" } }
  else spec

def applyImages (spec : ServingSpec) (images : StringMap String) : ServingSpec :=
  { spec with
    registry := spec.registry.overrideWith images
    config := spec.config.applySidecarImage images }

def normalizeResources (spec : ServingSpec) : ServingSpec :=
  { spec with resources := ResourceOverride.normalize spec.resources }

def defaultNetwork (spec : ServingSpec) (domain : Option String) : ServingSpec :=
  { spec with config := spec.config.applyNetwork domain }

def applyDefaults (spec : ServingSpec) (images : StringMap String) (domain : Option String) :
    ServingSpec :=
  (((spec.defaultHighAvailability.defaultCustomCerts).applyImages
    images).normalizeResources).defaultNetwork domain

end ServingSpec

end ServingOperator
