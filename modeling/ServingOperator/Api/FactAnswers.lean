import ServingOperator.Api.Http
import ServingOperator.Json.Pointer
import ServingOperator.Serving.Resolution
import ServingOperator.Wire.RouteFormat

namespace ServingOperator

structure FactAnswers where
  version : Except ApiFailure Json
  clusterIngress : Except ApiFailure Json
  loggingRoute : Except ApiFailure Json

namespace FactAnswers

def versionKeys : List String :=
  ["buildDate", "compiler", "gitCommit", "gitTreeState", "gitVersion", "goVersion", "major",
    "minor", "platform"]

def textOrEmpty? (j : Json) (key : String) : Option String :=
  match j.get? key with
  | none => some ""
  | some value => (value.orNull? Json.text?).map (·.getD "")

def readVersion? (j : Json) : Option String :=
  match j with
  | .obj _ => do
    let _ ← versionKeys.mapM (textOrEmpty? j)
    textOrEmpty? j "gitVersion"
  | _ => none

def hasReadableMetadata (j : Json) : Bool :=
  (j.get? "metadata").all fun metadata => (ObjectMeta.format.decode metadata).isSome

def readDomain? (j : Json) : Option (Option String) :=
  match j with
  | .obj _ =>
    if hasReadableMetadata j then
      some (((j.pointer? "/spec/domain").bind Json.text?).filter (· ≠ ""))
    else none
  | _ => none

/-- The host of a route: the admitted one, or the one asked for; an empty one is none. -/
def readHost? (j : Json) : Option (Option String) :=
  (Route.format.decode j).map fun route =>
    some (route.admittedHost?.getD route.spec.host) |>.filter (· ≠ "")

def reading {α : Type} (read : Json → Option α) (answer : Except ApiFailure Json) :
    Except ApiFailure α :=
  answer.bind fun j => match read j with
    | some a => .ok a
    | none => .error .unreadable

/-- Reads what was answered, and nothing where nothing is found. -/
def readingOptional {α : Type} (read : Json → Option (Option α))
    (answer : Except ApiFailure Json) : Except ApiFailure (Option α) :=
  match answer with
  | .error (.status 404) => .ok none
  | answer => reading read answer

def versionText (a : FactAnswers) : Except ApiFailure String := reading readVersion? a.version

def domain (a : FactAnswers) : Except ApiFailure (Option String) :=
  readingOptional readDomain? a.clusterIngress

def loggingHost (a : FactAnswers) : Except ApiFailure (Option String) :=
  readingOptional readHost? a.loggingRoute

def gather (a : FactAnswers) : Except ApiFailure Facts := do
  let version ← a.versionText
  let domain ← a.domain
  let loggingHost ← a.loggingHost
  return { version, domain, loggingHost }

end FactAnswers

end ServingOperator
