import ServingOperator.Pass
import ServingOperator.Wire.ServingFormat

namespace ServingOperator

namespace KnativeServing

def specPatch (spec : ServingSpec) : Json := .obj [("spec", ServingSpec.format.encode spec)]

/-- The patch that writes a status. It names every member, since a merge leaves those alone that it
    does not name. -/
def statusPatch (status : ServingStatus) : Json :=
  let version := match status.version with
    | some version => Json.str version
    | none => .null
  let generation := match status.observedGeneration with
    | some n => Json.int n.toInt
    | none => .null
  .obj [("status", .obj
    [("version", version),
      ("observedGeneration", generation),
      ("conditions", .arr (status.conditions.map Condition.format.encode))])]

def labelPatch (decision : MonitoringDecision) : Json :=
  .obj [("metadata", .obj [("labels",
    .obj [(MonitoringDecision.labelKey, .str decision.label)])])]

def writes (serving : KnativeServing) (inNamespace : String) (r : Resolution) : List Change :=
  let name := serving.metadata.nameAny
  (if r.spec = serving.spec then [] else [.merge (.serving inNamespace name) (specPatch r.spec)]) ++
    (if serving.status = some r.status then []
      else [.merge (.servingStatus inNamespace name) (statusPatch r.status)])

/-- A blocked installation is looked at again soon, any other after a while. -/
def nextLook (r : Resolution) : Action := .requeue (if r.isBlocked then 60 else 300)

def pass (serving : KnativeServing) (config : OperatorConfig) (now : Instant) :
    Attempt Conclusion := do
  let some inNamespace := serving.metadata.inNamespace
    | throw (.missingNamespace KnativeServing.kind.kind)
  let facts ← Attempt.facts
  let r := serving.resolve facts config now
  (serving.writes inNamespace r).forM Attempt.change
  if !r.isBlocked then
    Attempt.change (.merge (.installNamespace inNamespace) (labelPatch r.monitoring))
  return ⟨nextLook r, [.succeeded Metrics.servingController]⟩

end KnativeServing

end ServingOperator
