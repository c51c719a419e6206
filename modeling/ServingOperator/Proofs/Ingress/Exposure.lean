import ServingOperator.Proofs.Ingress.Terms
import ServingOperator.Proofs.Text.Lower

namespace ServingOperator

namespace HttpOption

def named? (text : String) : Option HttpOption :=
  if Text.SameInAscii text "enabled" then some .enabled
  else if Text.SameInAscii text "redirected" then some .redirected
  else none

def policy : HttpOption → InsecurePolicy
  | enabled => .allow
  | redirected => .redirect

end HttpOption

namespace Ingress

/-- The option that counts: one that is annotated and not empty, or else that of the spec. -/
def option? (ingress : Ingress) : Option HttpOption :=
  match ingress.annotation? "networking.knative.dev/http-option" with
  | some text => if text = "" then some ingress.spec.httpOption else HttpOption.named? text
  | none => some ingress.spec.httpOption

/-- An ingress that has hosts to serve and all that their routes take. Only its HTTP option may be
    wrong. -/
structure Servable (ingress : Ingress) : Prop where
  enabled : ingress.annotation? "serving.knative.openshift.io/disableRoute" = none
  hosts : hostsOutside ingress.spec.rules ≠ []
  named : ingress.metadata.name ≠ none
  spaced : ingress.metadata.inNamespace ≠ none
  identified : ingress.metadata.uid ≠ none
  balanced : ∃ entry ∈ ingress.publicEntries, entry.service? ≠ none

theorem lower_eq_enabled_iff (text : String) :
    Text.lower text = "enabled" ↔ Text.SameInAscii text "enabled" :=
  Text.lower_eq_iff (by decide) text

theorem lower_eq_redirected_iff (text : String) :
    Text.lower text = "redirected" ↔ Text.SameInAscii text "redirected" :=
  Text.lower_eq_iff (by decide) text

theorem option?_of_annotated {ingress : Ingress} {text : String} {option : HttpOption}
    (annotated : ingress.annotation? "networking.knative.dev/http-option" = some text)
    (names : HttpOption.named? text = some option) : ingress.option? = some option := by
  have given : text ≠ "" := by
    rintro rfl
    have empty : HttpOption.named? "" = none := by decide
    rw [empty] at names
    cases names
  rw [option?, annotated]
  exact (if_neg given).trans names

theorem AsksFor.option? {ingress : Ingress} {policy : InsecurePolicy}
    (asked : ingress.AsksFor policy) :
    ∃ option, ingress.option? = some option ∧ policy = option.policy := by
  cases asked with
  | @allowed text annotated means =>
    have same := (lower_eq_enabled_iff text).mp means
    exact ⟨.enabled, option?_of_annotated annotated (if_pos same), rfl⟩
  | @redirected text annotated means =>
    have same := (lower_eq_redirected_iff text).mp means
    have other : ¬Text.SameInAscii text "enabled" := by
      rw [← lower_eq_enabled_iff, means]
      decide
    have names : HttpOption.named? text = some .redirected := by
      rw [HttpOption.named?, if_neg other, if_pos same]
    exact ⟨.redirected, option?_of_annotated annotated names, rfl⟩
  | fromSpec plain option =>
    refine ⟨ingress.spec.httpOption, ?_, option.trans ?_⟩
    · unfold Ingress.option?
      cases annotated : ingress.annotation? "networking.knative.dev/http-option" with
      | none => rfl
      | some text =>
        rw [annotated] at plain
        exact if_pos plain
    · cases ingress.spec.httpOption <;> rfl

theorem wrongOption?_eq_some_iff (ingress : Ingress) (text : String) :
    ingress.wrongOption? = some text ↔
      ingress.annotation? "networking.knative.dev/http-option" = some text ∧ text ≠ "" ∧
        ¬Text.SameInAscii text "enabled" ∧ ¬Text.SameInAscii text "redirected" := by
  simp only [wrongOption?, Option.filter_eq_some_iff, decide_eq_true_eq, ne_eq,
    lower_eq_enabled_iff, lower_eq_redirected_iff]

theorem Servable.obstacle? {ingress : Ingress} (h : ingress.Servable) :
    ingress.obstacle? = ingress.wrongOption?.map .badHttpOption := by
  obtain ⟨entry, member, led⟩ := h.balanced
  have reached : ¬∀ entry ∈ ingress.publicEntries, entry.service? = none :=
    fun unled => led (unled entry member)
  rw [Ingress.obstacle?, if_neg h.named, if_neg h.spaced, if_neg h.identified, if_neg reached]

theorem Servable.routes {ingress : Ingress} (h : ingress.Servable) :
    match ingress.wrongOption? with
    | some text => ingress.routes = .error (.badHttpOption text)
    | none => ∃ terms : RouteTerms, terms.Suit ingress ∧
        ingress.routes = .ok ((hostsOutside ingress.spec.rules).map terms.route) := by
  have on : ¬(ingress.annotation? "serving.knative.openshift.io/disableRoute").isSome = true := by
    rw [h.enabled]
    exact Bool.false_ne_true
  have each := routes_of_hosts on h.hosts
  rw [h.obstacle?] at each
  cases wrong : ingress.wrongOption? with
  | some text =>
    rw [wrong] at each
    exact each
  | none =>
    rw [wrong] at each
    exact each

theorem Servable.routes_eq_error_iff {ingress : Ingress} (h : ingress.Servable) (text : String) :
    ingress.routes = .error (.badHttpOption text) ↔ ingress.wrongOption? = some text := by
  have each := h.routes
  cases wrong : ingress.wrongOption? with
  | some other =>
    rw [wrong] at each
    rw [each]
    simp
  | none =>
    rw [wrong] at each
    obtain ⟨terms, -, made⟩ := each
    rw [made]
    simp

/-- All routes of an ingress are exposed alike. An annotated HTTP option that is neither of the two is
    refused, also where TLS goes through and the option would not count. -/
theorem routes_exposed (ingress : Ingress) :
    (∀ desired, ingress.routes = .ok desired → ∀ r ∈ desired,
      (ingress.PassesThrough →
        r.spec.port = some ⟨.name "https"⟩ ∧
          r.spec.tls = some ⟨.passthrough, some .redirect⟩) ∧
      (¬ingress.PassesThrough →
        r.spec.port = some ⟨.name "http2"⟩ ∧
          ∃ option, ingress.option? = some option ∧
            r.spec.tls = some ⟨.edge, some option.policy⟩)) ∧
    (ingress.Servable → ∀ text,
      ingress.annotation? "networking.knative.dev/http-option" = some text →
        (ingress.routes = .error (.badHttpOption text) ↔
          text ≠ "" ∧ ¬Text.SameInAscii text "enabled" ∧
            ¬Text.SameInAscii text "redirected")) := by
  refine ⟨fun desired made r member => ?_, fun servable text annotated => ?_⟩
  · obtain ⟨terms, host, suit, rfl⟩ := terms_of_mem_routes made member
    constructor
    · intro passes
      obtain ⟨port, tls⟩ := suit.through passes
      exact ⟨congrArg some port, congrArg some tls⟩
    · intro ends
      obtain ⟨port, policy, tls, asked⟩ := suit.edge ends
      obtain ⟨option, counts, rfl⟩ := asked.option?
      exact ⟨congrArg some port, option, counts, congrArg some tls⟩
  · rw [servable.routes_eq_error_iff, wrongOption?_eq_some_iff]
    exact and_iff_right annotated

def annotatedHost (text : String) (tls : List IngressTLS) : Ingress where
  metadata := { oneHost.metadata with
    annotations := some (StringMap.insert ∅ "networking.knative.dev/http-option" text) }
  spec := { oneHost.spec with tls }
  status := oneHost.status

theorem servable_annotatedHost (text : String) (tls : List IngressTLS) :
    (annotatedHost text tls).Servable where
  enabled := rfl
  hosts := by
    change hostsOutside oneHost.spec.rules ≠ []
    decide
  named := Option.some_ne_none _
  spaced := Option.some_ne_none _
  identified := Option.some_ne_none _
  balanced := by
    change ∃ entry ∈ oneHost.publicEntries, entry.service? ≠ none
    decide

theorem routes_annotatedHost (text : String) (tls : List IngressTLS)
    (right : (annotatedHost text tls).wrongOption? = none) :
    ∃ r, (annotatedHost text tls).routes = .ok [r] := by
  have made := (servable_annotatedHost text tls).routes
  rw [right] at made
  obtain ⟨terms, -, made⟩ := made
  have hosts : hostsOutside oneHost.spec.rules = ["www.example.org"] := by decide
  change hostsOutside (annotatedHost text tls).spec.rules = _ at hosts
  rw [hosts] at made
  exact ⟨_, made⟩

/-- Capitals of ASCII are taken for small letters, and a dotted capital I is not. -/
theorem routes_exposed_annotatedHost :
    let certificate : IngressTLS := { secretName := "web", secretNamespace := "apps" }
    (∃ r, (annotatedHost "REDIRECTED" []).routes = .ok [r] ∧
      r.spec.port = some ⟨.name "http2"⟩ ∧ r.spec.tls = some ⟨.edge, some .redirect⟩) ∧
    (∃ r, (annotatedHost "Enabled" [certificate]).routes = .ok [r] ∧
      r.spec.port = some ⟨.name "https"⟩ ∧ r.spec.tls = some ⟨.passthrough, some .redirect⟩) ∧
    (annotatedHost "redİrected" [certificate]).routes =
      .error (.badHttpOption "redİrected") := by
  intro certificate
  refine ⟨?_, ?_, ?_⟩
  · obtain ⟨r, made⟩ := routes_annotatedHost "REDIRECTED" [] (by decide +kernel)
    have ends : ¬(annotatedHost "REDIRECTED" []).PassesThrough := by
      rw [← isPassthrough_iff]
      decide
    obtain ⟨port, option, counts, tls⟩ :=
      ((routes_exposed _).1 _ made r (List.mem_singleton_self r)).2 ends
    have redirected : (annotatedHost "REDIRECTED" []).option? = some .redirected := by decide
    rw [redirected] at counts
    cases counts
    exact ⟨r, made, port, tls⟩
  · obtain ⟨r, made⟩ := routes_annotatedHost "Enabled" [certificate] (by decide +kernel)
    have passes : (annotatedHost "Enabled" [certificate]).PassesThrough := by
      rw [← isPassthrough_iff]
      decide
    exact ⟨r, made, ((routes_exposed _).1 _ made r (List.mem_singleton_self r)).1 passes⟩
  · have servable := servable_annotatedHost "redİrected" [certificate]
    exact ((routes_exposed _).2 servable "redİrected" rfl).mpr
      ⟨by decide, by decide, by decide⟩

end Ingress

end ServingOperator
