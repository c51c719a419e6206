import ServingOperator.Ingress
import ServingOperator.Route
import ServingOperator.Sha256
import ServingOperator.Text
import ServingOperator.Text.Lower

namespace ServingOperator

namespace Host

def labels (host : String) : List (List Char) := Text.splitAt '.' host.toList

def serviceMark : List Char := ['s', 'v', 'c']

/-- Whether a host can be reached from outside: it has two labels, or more of which the third is
    not the mark of services. -/
def isExternal (host : String) : Bool :=
  match labels host with
  | [_, _] => true
  | _ :: _ :: third :: _ => third ≠ serviceMark
  | _ => false

def internalService? (domain : String) : Option (String × String) :=
  match labels domain with
  | service :: space :: third :: _ =>
    if third = serviceMark ∧ service ≠ [] ∧ space ≠ [] then
      some (String.ofList service, String.ofList space)
    else none
  | _ => none

end Host

inductive RouteError where
  | noLoadBalancerDomain
  | badHttpOption (value : String)
  | missingMetadata (field : String)
deriving DecidableEq, Repr

def RouteError.message : RouteError → String
  | noLoadBalancerDomain => "unable to find Ingress LoadBalancer with DomainInternal set"
  | badHttpOption value => "incorrect HTTPOption annotation: " ++ value
  | missingMetadata field => "Ingress missing " ++ field

namespace Route

def hostTag (host : String) : String :=
  String.ofList ((Sha256.digest host.toUTF8.toList).digits.take 6)

def nameFor (uid host : String) : String := "route-" ++ uid ++ "-" ++ hostTag host

end Route

namespace Ingress

def timeoutAnnotation : String := "haproxy.router.openshift.io/timeout"
def disableRouteAnnotation : String := "serving.knative.openshift.io/disableRoute"
def passthroughAnnotation : String := "serving.knative.openshift.io/enablePassthrough"
def httpOptionAnnotation : String := "networking.knative.dev/http-option"

def timeout : String := "600s"

def externalHosts (ingress : Ingress) : List String :=
  (ingress.spec.rules.filter (·.visibility ≠ .clusterLocal)).flatMap fun rule =>
    rule.hosts.filter Host.isExternal

def target? (ingress : Ingress) : Option (String × String) := do
  let status ← ingress.status
  let balancer ← status.publicLoadBalancer
  (balancer.entries.filterMap (·.domainInternal)).findSome? Host.internalService?

def policyOfText? (text : String) : Option InsecurePolicy :=
  let small := Text.lower text
  if small = "enabled" then some .allow
  else if small = "redirected" then some .redirect
  else none

/-- The policy for plain HTTP: that of the annotation, unless it is missing or empty. -/
def edgePolicy (option : HttpOption) (annotations : StringMap String) :
    Except RouteError InsecurePolicy :=
  let fromSpec : InsecurePolicy := match option with
    | .enabled => .allow
    | .redirected => .redirect
  match annotations.get? httpOptionAnnotation with
  | none => .ok fromSpec
  | some text =>
    if text = "" then .ok fromSpec
    else match policyOfText? text with
      | some policy => .ok policy
      | none => .error (.badHttpOption text)

def isPassthrough (ingress : Ingress) : Bool :=
  ingress.metadata.annotationMap.contains passthroughAnnotation || !ingress.spec.tls.isEmpty

def isDisabled (ingress : Ingress) : Bool :=
  ingress.metadata.annotationMap.contains disableRouteAnnotation

def exposure (passthrough : Bool) (policy : InsecurePolicy) : RoutePort × RouteTLS :=
  if passthrough then
    (⟨.name "https"⟩, { termination := .passthrough, insecurePolicy := some .redirect })
  else (⟨.name "http2"⟩, { termination := .edge, insecurePolicy := some policy })

def routeFor (ingress : Ingress) (host : String) : Except RouteError Route := do
  let metadata := ingress.metadata
  let annotations := metadata.annotationMap.insert timeoutAnnotation timeout
  let some name := metadata.name | throw (.missingMetadata "name")
  let some inNamespace := metadata.inNamespace | throw (.missingMetadata "namespace")
  let some uid := metadata.uid | throw (.missingMetadata "uid")
  let owner : Route.Owner := { name, inNamespace }
  let some (service, space) := ingress.target? | throw .noLoadBalancerDomain
  let policy ← edgePolicy ingress.spec.httpOption annotations
  let (port, tls) := exposure ingress.isPassthrough policy
  return {
    metadata := {
      name := some (Route.nameFor uid host)
      inNamespace := some space
      labels := some (owner.mark metadata.labelMap)
      annotations := some annotations }
    spec := {
      host
      target := { kind := "Service", name := service, weight := some 100 }
      port := some port
      tls := some tls } }

def routes (ingress : Ingress) : Except RouteError (List Route) :=
  if ingress.isDisabled then .ok []
  else ingress.externalHosts.mapM ingress.routeFor

end Ingress

end ServingOperator
