import ServingOperator.Ingress.Routes
import ServingOperator.Proofs.Route.Selection

namespace ServingOperator

theorem mem_of_mapM_ok {α β ε : Type} {f : α → Except ε β} {xs : List α} {ys : List β}
    (h : xs.mapM f = .ok ys) {y : β} (member : y ∈ ys) : ∃ x ∈ xs, f x = .ok y := by
  induction xs generalizing ys with
  | nil =>
    cases h
    cases member
  | cons x xs ih =>
    rw [List.mapM_cons] at h
    cases first : f x with
    | error e =>
      rw [first] at h
      cases h
    | ok z =>
      cases others : xs.mapM f with
      | error e =>
        rw [first, others] at h
        cases h
      | ok zs =>
        rw [first, others] at h
        cases h
        rcases List.mem_cons.mp member with rfl | member
        · exact ⟨x, List.mem_cons_self, first⟩
        · obtain ⟨x', member', made⟩ := ih others member
          exact ⟨x', List.mem_cons_of_mem _ member', made⟩

theorem Sha256.State.length_digits (s : Sha256.State) : s.digits.length = 64 := rfl

namespace Route

theorem length_hostTag (host : String) : (hostTag host).toList.length = 6 := by
  rw [hostTag, String.toList_ofList, List.length_take, Sha256.State.length_digits]
  rfl

theorem uid_eq_of_nameFor_eq {uid uid' host host' : String}
    (same : nameFor uid host = nameFor uid' host') : uid = uid' := by
  have texts := congrArg String.toList same
  simp only [nameFor, String.toList_append, List.append_assoc] at texts
  have rest := List.append_cancel_left texts
  have lengths : ("-".toList ++ (hostTag host).toList).length =
      ("-".toList ++ (hostTag host').toList).length := by
    rw [List.length_append, List.length_append, length_hostTag, length_hostTag]
  exact String.toList_inj.mp (List.append_inj' rest lengths).1

end Route

namespace Ingress

theorem routeFor_eq_ok {ingress : Ingress} {host : String} {r : Route}
    (h : ingress.routeFor host = .ok r) :
    ∃ name inNamespace uid service space policy,
      ingress.metadata.name = some name ∧ ingress.metadata.inNamespace = some inNamespace ∧
      ingress.metadata.uid = some uid ∧ ingress.target? = some (service, space) ∧
      let annotations := ingress.metadata.annotationMap.insert timeoutAnnotation timeout
      edgePolicy ingress.spec.httpOption annotations = .ok policy ∧
      let (port, tls) := exposure ingress.isPassthrough policy
      r = {
        metadata := {
          name := some (Route.nameFor uid host)
          inNamespace := some space
          labels := some (Route.Owner.mark ⟨name, inNamespace⟩ ingress.metadata.labelMap)
          annotations := some annotations }
        spec := {
          host
          target := { kind := "Service", name := service, weight := some 100 }
          port := some port
          tls := some tls } } := by
  unfold routeFor at h
  cases named : ingress.metadata.name with
  | none => simp [named] at h
  | some name =>
  cases spaced : ingress.metadata.inNamespace with
  | none => simp [named, spaced] at h
  | some inNamespace =>
  cases identified : ingress.metadata.uid with
  | none => simp [named, spaced, identified] at h
  | some uid =>
  cases led : ingress.target? with
  | none => simp [named, spaced, identified, led] at h
  | some target =>
  obtain ⟨service, space⟩ := target
  simp only [named, spaced, identified, led] at h
  cases chosen : edgePolicy ingress.spec.httpOption
      (ingress.metadata.annotationMap.insert timeoutAnnotation timeout) with
  | error e =>
    rw [chosen] at h
    cases h
  | ok policy =>
    rw [chosen] at h
    cases h
    exact ⟨name, inNamespace, uid, service, space, policy, rfl, rfl, rfl, rfl, chosen, rfl⟩

theorem routeFor_of_mem_routes {ingress : Ingress} {desired : List Route}
    (h : ingress.routes = .ok desired) {d : Route} (member : d ∈ desired) :
    ∃ host, ingress.routeFor host = .ok d := by
  unfold routes at h
  split at h
  · cases h
    cases member
  · exact (mem_of_mapM_ok h member).imp fun _ made => made.2

theorem owner?_of_mem_routes {ingress : Ingress} {desired : List Route}
    (h : ingress.routes = .ok desired) {o : Route.Owner}
    (named : ingress.metadata.name = some o.name)
    (spaced : ingress.metadata.inNamespace = some o.inNamespace) {d : Route}
    (member : d ∈ desired) :
    d.owner? = some o ∧ ∃ space n, d.key = (some space, some n) := by
  obtain ⟨host, made⟩ := routeFor_of_mem_routes h member
  obtain ⟨name, inNamespace, uid, service, space, policy, named', spaced', -, -, -, rfl⟩ :=
    routeFor_eq_ok made
  rw [named] at named'
  rw [spaced] at spaced'
  cases named'
  cases spaced'
  exact ⟨Route.owner?_of_mark rfl, space, _, rfl⟩

theorem key_of_mem_routes {ingress : Ingress} {desired : List Route}
    (h : ingress.routes = .ok desired) {d : Route} (member : d ∈ desired) :
    ∃ uid host space, ingress.metadata.uid = some uid ∧
      d.key = (some space, some (Route.nameFor uid host)) := by
  obtain ⟨host, made⟩ := routeFor_of_mem_routes h member
  obtain ⟨_, _, uid, _, space, _, -, -, identity, -, -, rfl⟩ := routeFor_eq_ok made
  exact ⟨uid, host, space, identity, rfl⟩

def oneHost : Ingress where
  metadata := { name := some "web", inNamespace := some "apps", uid := some "1" }
  spec := { rules := [{ hosts := ["www.example.org"] }] }
  status := some {
    publicLoadBalancer := some { entries := [{ domainInternal := some "gateway.edge.svc" }] } }

def oneHostOwner : Route.Owner := ⟨"web", "apps"⟩

theorem plain_oneHostOwner : oneHostOwner.Plain := ⟨by decide, by decide⟩

def oneHostRoute : Route where
  metadata := {
    name := some (Route.nameFor "1" "www.example.org")
    inNamespace := some "edge"
    labels := some (oneHostOwner.mark ∅)
    annotations := some (StringMap.insert ∅ timeoutAnnotation timeout) }
  spec := {
    host := "www.example.org"
    target := { kind := "Service", name := "gateway", weight := some 100 }
    port := some ⟨.name "http2"⟩
    tls := some { termination := .edge, insecurePolicy := some .allow } }

theorem routes_oneHost_renamed (name inNamespace uid : String)
    (labels : Option (StringMap String)) :
    let renamed : Ingress := { oneHost with metadata := {
      name := some name, inNamespace := some inNamespace, uid := some uid, labels } }
    renamed.routes = .ok [{ oneHostRoute with metadata := { oneHostRoute.metadata with
      name := some (Route.nameFor uid "www.example.org")
      labels := some (Route.Owner.mark ⟨name, inNamespace⟩ (labels.getD ∅)) } }] := by
  intro renamed
  have enabled : renamed.isDisabled = false := rfl
  have hosts : oneHost.externalHosts = ["www.example.org"] := by decide
  have target : oneHost.target? = some ("gateway", "edge") := by decide
  have policy : edgePolicy renamed.spec.httpOption
      (renamed.metadata.annotationMap.insert timeoutAnnotation timeout) = .ok .allow := rfl
  change renamed.externalHosts = _ at hosts
  change renamed.target? = _ at target
  rw [routes, enabled, hosts]
  simp only [List.mapM_cons, List.mapM_nil, routeFor, target, policy]
  rfl

theorem routes_oneHost : oneHost.routes = .ok [oneHostRoute] :=
  routes_oneHost_renamed "web" "apps" "1" none

theorem owner?_oneHostRoute : oneHostRoute.owner? = some oneHostOwner := Route.owner?_of_mark rfl

end Ingress

end ServingOperator
