import ServingOperator.Route
import ServingOperator.Wire.Format

namespace ServingOperator

def RouteTarget.format : Format RouteTarget :=
  .image
    (.record .refused [] <|
      .cons "kind" none (.required .text) <|
      .cons "name" none (.required .text) <|
      .cons "weight" none (.optional .int32) .nil)
    (fun (kind, name, weight, ()) => { kind, name, weight })
    (fun t => (t.kind, t.name, t.weight, ()))
    (fun _ => rfl)

def RoutePort.format : Format RoutePort :=
  .image
    (.record .refused [] <| .cons "targetPort" none (.required .portRef) .nil)
    (fun (target, ()) => { target })
    (fun p => (p.target, ()))
    (fun _ => rfl)

def Termination.name : Termination → String
  | edge => "edge"
  | passthrough => "passthrough"

def Termination.format : Format Termination :=
  .choice [.edge, .passthrough] Termination.name (by intro a; cases a <;> decide)

def InsecurePolicy.name : InsecurePolicy → String
  | allow => "Allow"
  | redirect => "Redirect"

def InsecurePolicy.format : Format InsecurePolicy :=
  .choice [.allow, .redirect] InsecurePolicy.name (by intro a; cases a <;> decide)

def RouteTLS.format : Format RouteTLS :=
  .image
    (.record .refused [] <|
      .cons "termination" none (.required Termination.format) <|
      .cons "insecureEdgeTerminationPolicy" none (.optional InsecurePolicy.format) .nil)
    (fun (termination, insecurePolicy, ()) => { termination, insecurePolicy })
    (fun t => (t.termination, t.insecurePolicy, ()))
    (fun _ => rfl)

def WildcardPolicy.name : WildcardPolicy → String
  | none => "None"
  | subdomain => "Subdomain"

def WildcardPolicy.format : Format WildcardPolicy :=
  .choice [.none, .subdomain] WildcardPolicy.name (by intro a; cases a <;> decide)

def RouteSpec.format : Format RouteSpec :=
  .image
    (.record .refused [] <|
      .cons "host" none (.required .text) <|
      .cons "to" none (.required RouteTarget.format) <|
      .cons "port" none (.optional RoutePort.format) <|
      .cons "tls" none (.optional RouteTLS.format) <|
      .cons "wildcardPolicy" none (.orElse WildcardPolicy.format .none) .nil)
    (fun (host, target, port, tls, wildcardPolicy, ()) =>
      { host, target, port, tls, wildcardPolicy })
    (fun s => (s.host, s.target, s.port, s.tls, s.wildcardPolicy, ()))
    (fun _ => rfl)

def RouteAdmission.format : Format RouteAdmission :=
  .image
    (.record .refused [] <|
      .cons "host" none (.orElse .text "") <|
      .cons "routerName" none (.optional .text) .nil)
    (fun (host, routerName, ()) => { host, routerName })
    (fun a => (a.host, a.routerName, ()))
    (fun _ => rfl)

def RouteStatus.format : Format RouteStatus :=
  .image
    (.record .refused [] <|
      .cons "ingress" none (.orElse (.list RouteAdmission.format) []) .nil)
    (fun (ingress, ()) => { ingress })
    (fun s => (s.ingress, ()))
    (fun _ => rfl)

def Route.format : Format Route :=
  Resource.format Route.kind RouteSpec.format RouteStatus.format

end ServingOperator
