import ServingOperator.Proofs.Ingress.Terms
import ServingOperator.Proofs.Wire.RoundTrip

namespace ServingOperator

def Selector.listing (requirements : List (String × String)) : String :=
  ",".intercalate (requirements.map fun (key, value) => key ++ "=" ++ value)

namespace Route

def Owner.requirements (o : Owner) : List (String × String) :=
  [("serving.knative.openshift.io/ingressName", o.name),
    ("serving.knative.openshift.io/ingressNamespace", o.inNamespace)]

theorem Owner.selector_eq (o : Owner) : o.selector = Selector.listing o.requirements := by
  rw [Selector.listing, requirements, List.map_cons, List.map_singleton,
    String.intercalate_cons_cons, String.intercalate_singleton]
  simp only [selector, ownerNameLabel, ownerNamespaceLabel, String.append_assoc]

def ownerKeys : List String :=
  ["networking.internal.knative.dev/ingress", "serving.knative.openshift.io/ingressName",
    "serving.knative.openshift.io/ingressNamespace"]

/-- Whoever goes by the labels of a route comes to an ingress, whose own labels are all there. -/
structure LeadsTo (r : Route) (ingress : Ingress) (o : Owner) : Prop where
  watched : r.owner? = some o
  required : ∀ requirement ∈ o.requirements,
    r.metadata.labelMap.get? requirement.1 = some requirement.2
  selected : o.Plain → ∀ reader : Selector.Reader,
    reader.selects o.selector r.metadata.labelMap = true
  inherited : ∀ key ∉ ownerKeys,
    r.metadata.labelMap.get? key = ingress.metadata.labelMap.get? key

end Route

theorem RouteTerms.Suit.leadsTo {terms : RouteTerms} {ingress : Ingress} (suit : terms.Suit ingress)
    (host : String) :
    ∃ o : Route.Owner, ingress.metadata.name = some o.name ∧
      ingress.metadata.inNamespace = some o.inNamespace ∧ (terms.route host).LeadsTo ingress o := by
  obtain ⟨name, inNamespace, named, spaced, labels⟩ := suit.labels
  have required : ∀ requirement ∈ (Route.Owner.mk name inNamespace).requirements,
      (terms.route host).metadata.labelMap.get? requirement.1 = some requirement.2 := by
    intro requirement member
    rcases List.mem_cons.mp member with rfl | member
    · exact labels _
    · cases List.mem_singleton.mp member
      exact labels _
  have watched : (terms.route host).owner? = some ⟨name, inNamespace⟩ :=
    Route.owner?_eq_some_iff.mpr
      ⟨required _ List.mem_cons_self, required _ (List.mem_cons_of_mem _ List.mem_cons_self)⟩
  refine ⟨⟨name, inNamespace⟩, named, spaced, watched, required, fun plain reader => ?_, ?_⟩
  · exact (Route.selects_selector reader plain _).mpr watched
  · intro key other
    simp only [Route.ownerKeys, List.mem_cons, List.not_mem_nil, or_false, not_or] at other
    exact (labels key).trans (by simp [other])

namespace Ingress

/-- Every route of an ingress leads back to it, also once it was written and read again. -/
theorem routes_lead_back {ingress : Ingress} {desired : List Route}
    (made : ingress.routes = .ok desired) {r : Route} (member : r ∈ desired) :
    ∃ o : Route.Owner, ingress.metadata.name = some o.name ∧
      ingress.metadata.inNamespace = some o.inNamespace ∧ ingress.metadata.nameAny = o.name ∧
      o.selector = Selector.listing o.requirements ∧ r.LeadsTo ingress o ∧
      ∃ again, Route.format.decode (Route.format.encode r) = some again ∧
        again.LeadsTo ingress o := by
  obtain ⟨terms, host, suit, rfl⟩ := terms_of_mem_routes made member
  obtain ⟨o, named, spaced, leads⟩ := suit.leadsTo host
  have shown : ingress.metadata.nameAny = o.name := by
    rw [ObjectMeta.nameAny, named]
    rfl
  have read := Route.format.decode_encode (by decide) (terms.route host)
  exact ⟨o, named, spaced, shown, o.selector_eq, leads, _, read, leads⟩

/-- An ingress that itself claims to have been made for another. -/
theorem routes_lead_back_impostor :
    let labels : StringMap String := StringMap.ofList [
      ("networking.internal.knative.dev/ingress", "shop"),
      ("serving.knative.openshift.io/ingressName", "shop"),
      ("serving.knative.openshift.io/ingressNamespace", "store"), ("tier", "front")]
    let ingress : Ingress := { oneHost with metadata := {
      name := some "web", inNamespace := some "apps", uid := some "1", labels := some labels } }
    ∃ r, ingress.routes = .ok [r] ∧ r.owner? = some oneHostOwner ∧
      Selector.isMetBy oneHostOwner.selector r.metadata.labelMap = true ∧
      r.metadata.labelMap.get? "tier" = some "front" := by
  intro labels ingress
  have made := routes_oneHost_renamed "web" "apps" "1" (some labels)
  obtain ⟨o, named, spaced, -, -, leads, -⟩ := routes_lead_back made (List.mem_singleton_self _)
  have own : o = oneHostOwner := by
    cases o
    cases named
    cases spaced
    rfl
  subst own
  refine ⟨_, made, leads.watched, leads.selected plain_oneHostOwner Selector.equalityReader, ?_⟩
  exact (leads.inherited "tier" (by decide)).trans (by decide)

end Ingress

end ServingOperator
