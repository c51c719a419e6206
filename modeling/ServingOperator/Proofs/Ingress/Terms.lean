import ServingOperator.Proofs.Ingress.Routes

namespace ServingOperator

structure RouteTerms where
  uid : String
  service : String
  inNamespace : String
  port : RoutePort
  tls : RouteTLS
  labels : StringMap String
  annotations : StringMap String

def RouteTerms.route (terms : RouteTerms) (host : String) : Route where
  metadata := {
    name := some (Route.nameFor terms.uid host)
    inNamespace := some terms.inNamespace
    labels := some terms.labels
    annotations := some terms.annotations }
  spec := {
    host
    target := { kind := "Service", name := terms.service, weight := some 100 }
    port := some terms.port
    tls := some terms.tls
    wildcardPolicy := .none }
  status := none

def LoadBalancerEntry.service? (entry : LoadBalancerEntry) : Option (String × String) :=
  entry.domainInternal.bind Host.internalService?

namespace Ingress

/-- The hosts of some rules that are reached from outside, in order. A rule that is known inside the
    cluster only has none. -/
def hostsOutside : List IngressRule → List String
  | [] => []
  | rule :: rules =>
    if rule.visibility = .clusterLocal then hostsOutside rules
    else rule.hosts.filter Host.isExternal ++ hostsOutside rules

def publicEntries (ingress : Ingress) : List LoadBalancerEntry :=
  ((ingress.status.bind (·.publicLoadBalancer)).map (·.entries)).getD []

def annotation? (ingress : Ingress) (key : String) : Option String :=
  ingress.metadata.annotationMap.get? key

def wrongOption? (ingress : Ingress) : Option String :=
  (ingress.annotation? "networking.knative.dev/http-option").filter fun text =>
    text ≠ "" ∧ Text.lower text ≠ "enabled" ∧ Text.lower text ≠ "redirected"

/-- The first reason against routes for an ingress that has hosts to serve. -/
def obstacle? (ingress : Ingress) : Option RouteError :=
  if ingress.metadata.name = none then some (.missingMetadata "name")
  else if ingress.metadata.inNamespace = none then some (.missingMetadata "namespace")
  else if ingress.metadata.uid = none then some (.missingMetadata "uid")
  else if ∀ entry ∈ ingress.publicEntries, entry.service? = none then some .noLoadBalancerDomain
  else ingress.wrongOption?.map .badHttpOption

inductive AsksFor (ingress : Ingress) : InsecurePolicy → Prop where
  | allowed {text : String}
      (annotated : ingress.annotation? "networking.knative.dev/http-option" = some text)
      (means : Text.lower text = "enabled") : AsksFor ingress .allow
  | redirected {text : String}
      (annotated : ingress.annotation? "networking.knative.dev/http-option" = some text)
      (means : Text.lower text = "redirected") : AsksFor ingress .redirect
  | fromSpec {policy : InsecurePolicy}
      (plain : (ingress.annotation? "networking.knative.dev/http-option").getD "" = "")
      (option : policy = match ingress.spec.httpOption with
        | .enabled => .allow
        | .redirected => .redirect) : AsksFor ingress policy

def PassesThrough (ingress : Ingress) : Prop :=
  (ingress.annotation? "serving.knative.openshift.io/enablePassthrough").isSome = true ∨
    ingress.spec.tls ≠ []

end Ingress

/-- The terms are those of an ingress. -/
structure RouteTerms.Suit (terms : RouteTerms) (ingress : Ingress) : Prop where
  uid : ingress.metadata.uid = some terms.uid
  target : ∃ before entry after, ingress.publicEntries = before ++ entry :: after ∧
    (∀ other ∈ before, other.service? = none) ∧
    entry.service? = some (terms.service, terms.inNamespace)
  through : ingress.PassesThrough →
    terms.port = ⟨.name "https"⟩ ∧ terms.tls = ⟨.passthrough, some .redirect⟩
  edge : ¬ingress.PassesThrough →
    terms.port = ⟨.name "http2"⟩ ∧
      ∃ policy, terms.tls = ⟨.edge, some policy⟩ ∧ ingress.AsksFor policy
  labels : ∃ name inNamespace, ingress.metadata.name = some name ∧
    ingress.metadata.inNamespace = some inNamespace ∧ ∀ key, terms.labels.get? key =
      if key = "networking.internal.knative.dev/ingress" then some name
      else if key = "serving.knative.openshift.io/ingressName" then some name
      else if key = "serving.knative.openshift.io/ingressNamespace" then some inNamespace
      else ingress.metadata.labelMap.get? key
  annotations : ∀ key, terms.annotations.get? key =
    if key = "haproxy.router.openshift.io/timeout" then some "600s" else ingress.annotation? key

namespace Ingress

theorem isPassthrough_iff (ingress : Ingress) :
    ingress.isPassthrough = true ↔ ingress.PassesThrough := by
  simp [isPassthrough, PassesThrough, annotation?, passthroughAnnotation, StringMap.contains]

theorem target?_eq (ingress : Ingress) :
    ingress.target? = ingress.publicEntries.findSome? LoadBalancerEntry.service? := by
  have unfolded : ingress.target? =
      (ingress.status.bind (·.publicLoadBalancer)).bind fun balancer =>
        (balancer.entries.filterMap (·.domainInternal)).findSome? Host.internalService? := by
    unfold target?
    cases ingress.status <;> rfl
  rw [unfolded, publicEntries]
  cases ingress.status.bind (·.publicLoadBalancer) with
  | none => rfl
  | some balancer =>
    show (balancer.entries.filterMap (·.domainInternal)).findSome? Host.internalService? =
      balancer.entries.findSome? LoadBalancerEntry.service?
    rw [← List.head?_filterMap, List.filterMap_filterMap, List.head?_filterMap]
    rfl

theorem policyOfText?_eq_none_iff (text : String) :
    policyOfText? text = none ↔ Text.lower text ≠ "enabled" ∧ Text.lower text ≠ "redirected" := by
  unfold policyOfText?
  by_cases enabled : Text.lower text = "enabled"
  · simp [enabled]
  · by_cases redirected : Text.lower text = "redirected" <;> simp [enabled, redirected]

theorem asksFor_of_text {ingress : Ingress} {text : String} {policy : InsecurePolicy}
    (annotated : ingress.annotation? "networking.knative.dev/http-option" = some text)
    (means : policyOfText? text = some policy) : ingress.AsksFor policy := by
  unfold policyOfText? at means
  by_cases enabled : Text.lower text = "enabled"
  · simp only [enabled, if_true, Option.some.injEq] at means
    exact means ▸ .allowed annotated enabled
  · by_cases redirected : Text.lower text = "redirected"
    · simp only [redirected] at means
      cases means
      exact .redirected annotated redirected
    · simp [enabled, redirected] at means

theorem edgePolicy_cases (ingress : Ingress) :
    match ingress.wrongOption? with
    | some text => edgePolicy ingress.spec.httpOption
        (ingress.metadata.annotationMap.insert timeoutAnnotation timeout) =
          .error (.badHttpOption text)
    | none => ∃ policy, edgePolicy ingress.spec.httpOption
        (ingress.metadata.annotationMap.insert timeoutAnnotation timeout) = .ok policy ∧
          ingress.AsksFor policy := by
  -- The timeout is annotated first, which does not touch the option.
  have found : (ingress.metadata.annotationMap.insert timeoutAnnotation timeout).get?
      httpOptionAnnotation = ingress.annotation? httpOptionAnnotation := by
    rw [StringMap.get?_insert, if_neg (by decide)]
    rfl
  unfold edgePolicy wrongOption?
  rw [found]
  unfold httpOptionAnnotation
  cases annotated : ingress.annotation? "networking.knative.dev/http-option" with
  | none =>
    exact ⟨_, rfl, .fromSpec (by rw [annotated]; rfl) rfl⟩
  | some text =>
    by_cases empty : text = ""
    · subst empty
      exact ⟨_, rfl, .fromSpec (by rw [annotated]; rfl) rfl⟩
    · cases means : policyOfText? text with
      | none =>
        have wrong := (policyOfText?_eq_none_iff text).mp means
        simp [empty, wrong, means, Option.filter_some]
      | some policy =>
        have right :
            ¬(text ≠ "" ∧ Text.lower text ≠ "enabled" ∧ Text.lower text ≠ "redirected") := by
          rintro ⟨-, wrong⟩
          rw [(policyOfText?_eq_none_iff text).mpr wrong] at means
          cases means
        simp only [empty, if_false, means, Option.filter_some, right, decide_false]
        exact ⟨policy, rfl, asksFor_of_text annotated means⟩

def termsOf (ingress : Ingress) (owner : Route.Owner) (uid service space : String)
    (policy : InsecurePolicy) : RouteTerms :=
  let exposed := exposure ingress.isPassthrough policy
  { uid
    service
    inNamespace := space
    port := exposed.1
    tls := exposed.2
    labels := owner.mark ingress.metadata.labelMap
    annotations := ingress.metadata.annotationMap.insert timeoutAnnotation timeout }

theorem target_of_target? {ingress : Ingress} {service space : String}
    (led : ingress.target? = some (service, space)) :
    ∃ before entry after, ingress.publicEntries = before ++ entry :: after ∧
      (∀ other ∈ before, other.service? = none) ∧ entry.service? = some (service, space) := by
  rw [target?_eq, List.findSome?_eq_some_iff] at led
  obtain ⟨before, entry, after, entries, leads, unled⟩ := led
  exact ⟨before, entry, after, entries, unled, leads⟩

theorem get?_mark (owner : Route.Owner) (labels : StringMap String) (key : String) :
    (owner.mark labels).get? key =
      if key = "networking.internal.knative.dev/ingress" then some owner.name
      else if key = "serving.knative.openshift.io/ingressName" then some owner.name
      else if key = "serving.knative.openshift.io/ingressNamespace" then some owner.inNamespace
      else labels.get? key := by
  rw [Route.Owner.mark, StringMap.get?_insert, StringMap.get?_insert, StringMap.get?_insert]
  by_cases space : key = Route.ownerNamespaceLabel
  · subst space
    rfl
  by_cases name : key = Route.ownerNameLabel
  · subst name
    rfl
  by_cases both : key = Route.ingressLabel
  · subst both
    rfl
  · rw [if_neg (Ne.symm space), if_neg (Ne.symm name), if_neg (Ne.symm both)]
    exact ((if_neg both).trans ((if_neg name).trans (if_neg space))).symm

theorem suit_termsOf {ingress : Ingress} {owner : Route.Owner} {uid service space : String}
    {policy : InsecurePolicy} (named : ingress.metadata.name = some owner.name)
    (spaced : ingress.metadata.inNamespace = some owner.inNamespace)
    (identified : ingress.metadata.uid = some uid)
    (led : ingress.target? = some (service, space)) (asked : ingress.AsksFor policy) :
    (ingress.termsOf owner uid service space policy).Suit ingress where
  uid := identified
  target := target_of_target? led
  through passes := by
    have on := (isPassthrough_iff ingress).mpr passes
    unfold termsOf
    rw [on]
    exact ⟨rfl, rfl⟩
  edge ends := by
    have off : ingress.isPassthrough = false := by
      rw [← Bool.not_eq_true, isPassthrough_iff]
      exact ends
    unfold termsOf
    rw [off]
    exact ⟨rfl, policy, rfl, asked⟩
  labels := ⟨owner.name, owner.inNamespace, named, spaced, get?_mark owner _⟩
  annotations key := by
    rw [termsOf, StringMap.get?_insert]
    by_cases own : timeoutAnnotation = key
    · subst own
      rfl
    · rw [if_neg own]
      exact (if_neg (Ne.symm own)).symm

/-- Whether an ingress has routes does not depend on the host, nor does what they say besides. -/
theorem routeFor_cases (ingress : Ingress) :
    match ingress.obstacle? with
    | some e => ∀ host, ingress.routeFor host = .error e
    | none => ∃ terms : RouteTerms, terms.Suit ingress ∧
        ∀ host, ingress.routeFor host = .ok (terms.route host) := by
  cases named : ingress.metadata.name with
  | none =>
    have hindered : ingress.obstacle? = some (.missingMetadata "name") := if_pos named
    rw [hindered]
    intro host
    simp only [routeFor, named]
    rfl
  | some name =>
  cases spaced : ingress.metadata.inNamespace with
  | none =>
    have hindered : ingress.obstacle? = some (.missingMetadata "namespace") := by
      simp [obstacle?, named, spaced]
    rw [hindered]
    intro host
    simp only [routeFor, named, spaced]
    rfl
  | some inNamespace =>
  cases identified : ingress.metadata.uid with
  | none =>
    have hindered : ingress.obstacle? = some (.missingMetadata "uid") := by
      simp [obstacle?, named, spaced, identified]
    rw [hindered]
    intro host
    simp only [routeFor, named, spaced, identified]
    rfl
  | some uid =>
  have known : ingress.obstacle? =
      if ∀ entry ∈ ingress.publicEntries, entry.service? = none then some .noLoadBalancerDomain
      else ingress.wrongOption?.map .badHttpOption := by
    simp only [obstacle?, named, spaced, identified, reduceCtorEq, if_false]
  cases led : ingress.target? with
  | none =>
    have unled : ∀ entry ∈ ingress.publicEntries, entry.service? = none := by
      rwa [target?_eq, List.findSome?_eq_none_iff] at led
    rw [known, if_pos unled]
    intro host
    simp only [routeFor, named, spaced, identified, led]
    rfl
  | some target =>
    obtain ⟨service, space⟩ := target
    have reached : ¬∀ entry ∈ ingress.publicEntries, entry.service? = none := by
      rw [← List.findSome?_eq_none_iff, ← target?_eq, led]
      exact Option.some_ne_none _
    rw [known, if_neg reached]
    -- The policy comes before TLS, so that a wrong option stands in the way of passthrough too.
    have policy := edgePolicy_cases ingress
    cases wrong : ingress.wrongOption? with
    | some text =>
      rw [wrong] at policy
      intro host
      simp only [routeFor, named, spaced, identified, led, policy]
      rfl
    | none =>
      rw [wrong] at policy
      obtain ⟨policy, chosen, asked⟩ := policy
      have suit : (ingress.termsOf ⟨name, inNamespace⟩ uid service space policy).Suit ingress :=
        suit_termsOf named spaced identified led asked
      refine ⟨_, suit, fun host => ?_⟩
      simp only [routeFor, named, spaced, identified, led, chosen]
      rfl

theorem terms_of_mem_routes {ingress : Ingress} {desired : List Route}
    (h : ingress.routes = .ok desired) {r : Route} (member : r ∈ desired) :
    ∃ (terms : RouteTerms) (host : String), terms.Suit ingress ∧ r = terms.route host := by
  obtain ⟨host, made⟩ := routeFor_of_mem_routes h member
  have each := routeFor_cases ingress
  cases obstacle : ingress.obstacle? with
  | some e =>
    rw [obstacle] at each
    rw [each host] at made
    cases made
  | none =>
    rw [obstacle] at each
    obtain ⟨terms, suit, each⟩ := each
    rw [each host] at made
    exact ⟨terms, host, suit, (Except.ok.inj made).symm⟩

theorem mapM_of_error {α β ε : Type} {f : α → Except ε β} {e : ε} (failing : ∀ x, f x = .error e)
    {xs : List α} (some_x : xs ≠ []) : xs.mapM f = .error e := by
  cases xs with
  | nil => exact absurd rfl some_x
  | cons x xs =>
    rw [List.mapM_cons, failing]
    rfl

theorem externalHosts_eq (ingress : Ingress) :
    ingress.externalHosts = hostsOutside ingress.spec.rules := by
  unfold externalHosts
  induction ingress.spec.rules with
  | nil => rfl
  | cons rule rules ih =>
    rw [hostsOutside, ← ih]
    by_cases inside : rule.visibility = .clusterLocal <;> simp [inside]

theorem routes_of_turned_off {ingress : Ingress}
    (off : (ingress.annotation? "serving.knative.openshift.io/disableRoute").isSome = true) :
    ingress.routes = .ok [] := if_pos off

theorem routes_of_no_hosts {ingress : Ingress} (hosts : hostsOutside ingress.spec.rules = []) :
    ingress.routes = .ok [] := by
  unfold routes
  rw [externalHosts_eq, hosts]
  split <;> rfl

theorem routes_of_hosts {ingress : Ingress}
    (on : ¬(ingress.annotation? "serving.knative.openshift.io/disableRoute").isSome = true)
    (hosts : hostsOutside ingress.spec.rules ≠ []) :
    match ingress.obstacle? with
    | some e => ingress.routes = .error e
    | none => ∃ terms : RouteTerms, terms.Suit ingress ∧
        ingress.routes = .ok ((hostsOutside ingress.spec.rules).map terms.route) := by
  have made : ingress.routes = ingress.externalHosts.mapM ingress.routeFor := if_neg on
  rw [made, externalHosts_eq]
  have each := routeFor_cases ingress
  cases obstacle : ingress.obstacle? with
  | some e =>
    rw [obstacle] at each
    exact mapM_of_error each hosts
  | none =>
    rw [obstacle] at each
    obtain ⟨terms, suit, each⟩ := each
    refine ⟨terms, suit, ?_⟩
    rw [funext each]
    exact List.mapM_pure

/-- An ingress without hosts outside, or with its routes turned off, asks for none. Any other has
    one for each of its hosts, all on the same terms, unless there is an obstacle to all of them. -/
theorem routes_described (ingress : Ingress) :
    if hostsOutside ingress.spec.rules = [] ∨
        (ingress.annotation? "serving.knative.openshift.io/disableRoute").isSome = true then
      ingress.routes = .ok []
    else match ingress.obstacle? with
      | some e => ingress.routes = .error e
      | none => ∃ terms : RouteTerms, terms.Suit ingress ∧
          ingress.routes = .ok ((hostsOutside ingress.spec.rules).map terms.route) := by
  split
  · rename_i nothing
    rcases nothing with hosts | off
    · exact routes_of_no_hosts hosts
    · exact routes_of_turned_off off
  · rename_i something
    obtain ⟨hosts, on⟩ := not_or.mp something
    exact routes_of_hosts on hosts

-- A host inside the cluster is left out, and so is all of a rule that is known there only.
example : hostsOutside
    [{ hosts := ["web.apps.svc.cluster.local", "b.example.org"] },
      { hosts := ["c.example.org"], visibility := .clusterLocal },
      { hosts := ["a.example.org", "b.example.org"] }] =
    ["b.example.org", "a.example.org", "b.example.org"] := by decide

end Ingress

end ServingOperator
