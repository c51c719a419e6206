import ServingOperator.StringMap
import ServingOperator.Text
import ServingOperator.Text.Quoted

namespace ServingOperator

structure OperatorConfig where
  requiredNamespace : Option String := none
  minimumVersion : String := "1.20.0"
  monitoring : Option Bool := none
  images : StringMap String := ∅
  healthPort : UInt16 := 8080
deriving DecidableEq

inductive ConfigError where
  | notBoolean (name value : String)
  | notPortNumber (name value : String)
deriving DecidableEq, Repr

def ConfigError.message : ConfigError → String
  | notBoolean name value => name ++ " must be a boolean, got " ++ Text.quoted value
  | notPortNumber name value => name ++ " must be a port number, got " ++ Text.quoted value

namespace OperatorConfig

def requiredNamespaceName : String := "REQUIRED_SERVING_NAMESPACE"
def minimumVersionName : String := "MIN_KUBERNETES_VERSION"
def monitoringName : String := "ENABLE_SERVING_MONITORING_BY_DEFAULT"
def healthPortName : String := "HEALTH_PORT"

def imageMark : String := "IMAGE_"

def imageComponent? (name : String) : Option String :=
  if imageMark.toList.isPrefixOf name.toList then
    some (String.ofList (name.toList.drop imageMark.length))
  else none

def readSwitch? (value : String) : Option Bool :=
  if ["1", "t", "T", "true", "TRUE", "True"].contains value then some true
  else if ["0", "f", "F", "false", "FALSE", "False"].contains value then some false
  else none

/-- A decimal number of 16 bits, with at most one plus sign in front. -/
def readPort? (value : String) : Option UInt16 :=
  let digits := match value.toList with
    | '+' :: cs => cs
    | cs => cs
  (Text.natBelow? UInt16.size digits).map UInt16.ofNat

/-- Takes one setting over. An empty namespace or version leaves the former one. -/
def set (config : OperatorConfig) (name value : String) : Except ConfigError OperatorConfig :=
  match imageComponent? name with
  | some component =>
    if component = "" then .ok config
    else .ok { config with images := config.images.insert component value }
  | none =>
    if name = requiredNamespaceName then
      .ok (if value = "" then config else { config with requiredNamespace := some value })
    else if name = minimumVersionName then
      .ok (if value = "" then config else { config with minimumVersion := value })
    else if name = monitoringName then
      match readSwitch? value with
      | some switch => .ok { config with monitoring := some switch }
      | none => .error (.notBoolean name value)
    else if name = healthPortName then
      match readPort? value with
      | some number => .ok { config with healthPort := number }
      | none => .error (.notPortNumber name value)
    else .ok config

def ofSettings (settings : List (String × String)) : Except ConfigError OperatorConfig :=
  settings.foldlM (fun config s => config.set s.1 s.2) {}

end OperatorConfig

end ServingOperator
