import ServingOperator.Pass

namespace ServingOperator

namespace Ingress

def finalizer : String := "ocp-ingress"

def hasFinalizer (ingress : Ingress) : Bool := ingress.metadata.finalizerList.contains finalizer

def finalizerPatch (finalizers : List String) : Json :=
  .obj [("metadata", .obj [("finalizers", .arr (finalizers.map .str))])]

def setFinalizers (ingress : Ingress) (inNamespace : String) (finalizers : List String) : Change :=
  .merge (.ingress inNamespace ingress.metadata.nameAny) (finalizerPatch finalizers)

def applyRoute (route : Route) : Change :=
  .applyRoute (route.metadata.inNamespace.getD "") route.metadata.nameAny route

def deleteStale (owner : Route.Owner) (desired : List Route) : Attempt Unit := do
  let existing ← Attempt.routesOf owner
  (Route.stale existing desired).forM fun (inNamespace, name) => Attempt.delete inNamespace name

def release (ingress : Ingress) (owner : Route.Owner) : Attempt Conclusion := do
  if ingress.hasFinalizer then
    deleteStale owner []
    let others := ingress.metadata.finalizerList.filter (· ≠ finalizer)
    Attempt.change (ingress.setFinalizers owner.inNamespace others)
  return ⟨.awaitChange, [.routesForgotten owner]⟩

def serve (ingress : Ingress) (owner : Route.Owner) : Attempt Conclusion := do
  let desired ← (ingress.routes).mapError PassError.routes
  if !ingress.hasFinalizer then
    let finalizers := ingress.metadata.finalizerList ++ [finalizer]
    Attempt.change (ingress.setFinalizers owner.inNamespace finalizers)
  desired.forM fun route => Attempt.change (applyRoute route)
  deleteStale owner desired
  return ⟨.requeue 300,
    [.routesCounted owner desired.length, .succeeded Metrics.ingressController]⟩

def pass (ingress : Ingress) : Attempt Conclusion := do
  let some inNamespace := ingress.metadata.inNamespace
    | throw (.missingNamespace Ingress.kind.kind)
  let owner : Route.Owner := ⟨ingress.metadata.nameAny, inNamespace⟩
  if ingress.metadata.deletionTimestamp.isSome then ingress.release owner
  else ingress.serve owner

end Ingress

end ServingOperator
