import Mathlib.Data.Fin.VecNotation
import Mathlib.Data.Finset.Card
import Mathlib.Data.Fintype.BigOperators
import ServingOperator.Proofs.Ingress.Convergence
import ServingOperator.Proofs.Ingress.Requests
import ServingOperator.Proofs.Ingress.Terms
import ServingOperator.Proofs.Metrics.Recording

namespace ServingOperator

namespace Route

def tagOf (digits : Fin 6 → Fin 16) : String :=
  String.ofList (List.ofFn fun i => Nat.digitChar (digits i))

theorem exists_tagOf (host : String) : ∃ digits, hostTag host = tagOf digits := by
  have small (n : UInt32) : (n &&& 0xf).toNat < 16 := by
    have bound : n.toNat &&& 15 ≤ 15 := Nat.and_le_right
    rw [UInt32.toNat_and]
    exact Nat.lt_succ_of_le bound
  let digit (n : UInt32) : Fin 16 := ⟨(n &&& 0xf).toNat, small n⟩
  let first := (Sha256.digest host.toUTF8.toList).a
  exact ⟨![digit (first >>> 28), digit (first >>> 24), digit (first >>> 20), digit (first >>> 16),
    digit (first >>> 12), digit (first >>> 8)], rfl⟩

theorem card_tags_le (hosts : List String) :
    (hosts.map hostTag).toFinset.card ≤ 16 ^ 6 := by
  have coded : (hosts.map hostTag).toFinset ⊆ Finset.univ.image tagOf := by
    intro tag member
    obtain ⟨host, -, rfl⟩ := List.mem_map.mp (List.mem_toFinset.mp member)
    obtain ⟨digits, written⟩ := exists_tagOf host
    exact Finset.mem_image.mpr ⟨digits, Finset.mem_univ _, written.symm⟩
  calc (hosts.map hostTag).toFinset.card ≤ (Finset.univ.image tagOf).card :=
        Finset.card_le_card coded
    _ ≤ Fintype.card (Fin 6 → Fin 16) := Finset.card_image_le
    _ = 16 ^ 6 := by simp

theorem min_eq_card_tags_iff (hosts : List String) :
    min hosts.length Metrics.greatestCount = (hosts.map hostTag).toFinset.card ↔
      (hosts.map hostTag).Nodup := by
  have few : (hosts.map hostTag).toFinset.card < Metrics.greatestCount :=
    (card_tags_le hosts).trans_lt (by decide)
  have each : (hosts.map hostTag).toFinset.card = hosts.length ↔ (hosts.map hostTag).Nodup := by
    have whole := @Multiset.toFinset_card_eq_card_iff_nodup String _ (hosts.map hostTag)
    simpa using whole
  rw [← each]
  omega

theorem nameFor_eq_iff {uid host host' : String} :
    nameFor uid host = nameFor uid host' ↔ hostTag host = hostTag host' :=
  String.append_right_inj _

/-- The last of some hosts that has the tag of a host. -/
def lastAlike? (hosts : List String) (host : String) : Option String :=
  hosts.reverse.find? fun other => hostTag other = hostTag host

variable {hosts : List String} {host last : String}

theorem exists_lastAlike? (member : host ∈ hosts) : ∃ last, lastAlike? hosts host = some last := by
  rw [← Option.isSome_iff_exists, lastAlike?, List.find?_isSome]
  exact ⟨host, List.mem_reverse.mpr member, decide_eq_true rfl⟩

theorem mem_of_lastAlike? (found : lastAlike? hosts host = some last) :
    last ∈ hosts ∧ hostTag last = hostTag host :=
  ⟨List.mem_reverse.mp (List.mem_of_find?_eq_some found), by simpa using List.find?_some found⟩

theorem lastAlike?_congr (same : hostTag host = hostTag last) :
    lastAlike? hosts host = lastAlike? hosts last := by
  rw [lastAlike?, lastAlike?, same]

theorem lastAlike?_iff_injOn (hosts : List String) :
    (∀ host ∈ hosts, lastAlike? hosts host = some host) ↔
      Set.InjOn hostTag {host | host ∈ hosts} := by
  constructor
  · intro each host member host' member' same
    have found := each host member
    rw [lastAlike?_congr same, each host' member'] at found
    exact (Option.some.inj found).symm
  · intro apart host member
    obtain ⟨last, found⟩ := exists_lastAlike? member
    obtain ⟨lastMember, same⟩ := mem_of_lastAlike? found
    rw [found, apart lastMember member same]

end Route

namespace RouteTerms

theorem key_route (terms : RouteTerms) (host : String) :
    (terms.route host).key = (some terms.inNamespace, some (Route.nameFor terms.uid host)) := rfl

theorem lastIn?_map_route (terms : RouteTerms) (hosts : List String) (host : String) :
    Route.lastIn? (hosts.map terms.route) terms.inNamespace (Route.nameFor terms.uid host) =
      (Route.lastAlike? hosts host).map terms.route := by
  rw [Route.lastIn?, Route.lastAlike?, ← List.map_reverse, List.find?_map]
  congr 2
  funext other
  simp [key_route, Route.nameFor_eq_iff]

end RouteTerms

namespace RouteTable

def Covers (table : RouteTable) (o : Route.Owner) (host : String) : Prop :=
  ∃ inNamespace name r, table inNamespace name = some r ∧ r.owner? = some o ∧ r.spec.host = host

def HoldsJust (table : RouteTable) (o : Route.Owner) (n : Nat) : Prop :=
  ∃ places : Finset (String × String), places.card = n ∧
    ∀ inNamespace name, (inNamespace, name) ∈ places ↔ table.Holds o inNamespace name

variable {o : Route.Owner} {terms : RouteTerms} {hosts : List String} {before after : RouteTable}

theorem HoldsJust.unique {table : RouteTable} {n n' : Nat} (h : table.HoldsJust o n)
    (h' : table.HoldsJust o n') : n = n' := by
  obtain ⟨places, rfl, held⟩ := h
  obtain ⟨places', rfl, held'⟩ := h'
  have same : places = places' := by
    ext ⟨inNamespace, name⟩
    rw [held, held']
  rw [same]

theorem Converged.holdsJust (converged : Converged o (hosts.map terms.route) before after) :
    after.HoldsJust o (hosts.map Route.hostTag).toFinset.card := by
  let place (tag : String) := (terms.inNamespace, "route-" ++ terms.uid ++ "-" ++ tag)
  have injective : Function.Injective place := fun tag tag' same =>
    (String.append_right_inj _).mp (congrArg Prod.snd same)
  refine ⟨(hosts.map Route.hostTag).toFinset.image place,
    Finset.card_image_of_injective _ injective, fun inNamespace name => ?_⟩
  rw [converged.holds]
  simp [place, RouteTerms.key_route, Route.nameFor]

theorem Converged.covers_iff (converged : Converged o (hosts.map terms.route) before after)
    (own : ∀ d ∈ hosts.map terms.route, d.owner? = some o) {host : String} (asked : host ∈ hosts) :
    after.Covers o host ↔ Route.lastAlike? hosts host = some host := by
  constructor
  · rintro ⟨inNamespace, name, r, found, labelled, rfl⟩
    obtain ⟨d, wanted, key⟩ := (converged.holds inNamespace name).mp ⟨r, found, labelled⟩
    obtain ⟨other, member, rfl⟩ := List.mem_map.mp wanted
    cases key
    obtain ⟨last, lastFound⟩ := Route.exists_lastAlike? member
    obtain ⟨kept, shown, carried⟩ := converged.carried _ _ (terms.route last)
      (by rw [terms.lastIn?_map_route, lastFound, Option.map_some])
    cases found.symm.trans shown
    have host : r.spec.host = last := congrArg RouteSpec.host carried.spec
    rw [host, Route.lastAlike?_congr (Route.mem_of_lastAlike? lastFound).2, lastFound]
  · intro last
    obtain ⟨r, found, carried⟩ := converged.carried _ _ (terms.route host)
      (by rw [terms.lastIn?_map_route, last, Option.map_some])
    have labelled := carried.owner? (own _ (List.mem_map_of_mem asked))
    exact ⟨_, _, r, found, labelled, congrArg RouteSpec.host carried.spec⟩

end RouteTable

namespace Ingress

variable {σ : Type} {server : ApiServer σ} {reader : Selector.Reader} {routes : σ → RouteTable}
  {ingress : Ingress} {inNamespace : String}

/-- The hosts that an ingress asks routes for: those outside, unless its routes are turned off. -/
def routableHosts (ingress : Ingress) : List String :=
  if (ingress.annotation? "serving.knative.openshift.io/disableRoute").isSome then []
  else hostsOutside ingress.spec.rules

theorem exists_terms {desired : List Route} (made : ingress.routes = .ok desired) :
    ∃ terms : RouteTerms, desired = ingress.routableHosts.map terms.route := by
  have unserved (nothing : ingress.routes = .ok []) (hosts : ingress.routableHosts = []) :
      ∃ terms : RouteTerms, desired = ingress.routableHosts.map terms.route := by
    refine ⟨⟨"", "", "", ⟨.name ""⟩, ⟨.edge, none⟩, ∅, ∅⟩, ?_⟩
    rw [hosts, List.map_nil]
    exact Except.ok.inj (made.symm.trans nothing)
  by_cases off : (ingress.annotation? "serving.knative.openshift.io/disableRoute").isSome = true
  · exact unserved (routes_of_turned_off off) (if_pos off)
  have routable : ingress.routableHosts = hostsOutside ingress.spec.rules := if_neg off
  by_cases hosts : hostsOutside ingress.spec.rules = []
  · exact unserved (routes_of_no_hosts hosts) (routable.trans hosts)
  have each := routes_of_hosts off hosts
  rw [made] at each
  split at each
  · cases each
  · obtain ⟨terms, -, same⟩ := each
    exact ⟨terms, routable ▸ Except.ok.inj same⟩

theorem own_of_mem_routes (spaced : ingress.metadata.inNamespace = some inNamespace)
    {desired : List Route} (made : ingress.routes = .ok desired) {d : Route}
    (member : d ∈ desired) :
    d.owner? = some ⟨ingress.metadata.nameAny, inNamespace⟩ ∧
      ∃ space n, d.key = (some space, some n) := by
  obtain ⟨host, one⟩ := routeFor_of_mem_routes made member
  obtain ⟨name, _, _, _, _, _, named, -⟩ := routeFor_eq_ok one
  have same : ingress.metadata.name = some ingress.metadata.nameAny := by
    rw [ObjectMeta.nameAny, named]
    rfl
  exact owner?_of_mem_routes made same spaced member

theorem pass_serves (keeps : server.KeepsRoutes reader routes)
    (spaced : ingress.metadata.inNamespace = some inNamespace)
    (live : ingress.metadata.deletionTimestamp = none)
    (plain : Route.Owner.Plain ⟨ingress.metadata.nameAny, inNamespace⟩) {s : σ}
    {conclusion : Conclusion} (ended : (ingress.pass.run.run server s).1 = .ok conclusion) :
    ∃ desired, ingress.routes = .ok desired ∧
      conclusion = served ⟨ingress.metadata.nameAny, inNamespace⟩ desired ∧
      RouteTable.Converged ⟨ingress.metadata.nameAny, inNamespace⟩ desired (routes s)
        (routes (ingress.pass.run.run server s).2) := by
  have pass := pass_of_live spaced live
  rw [pass] at ended ⊢
  cases made : ingress.routes with
  | error e =>
    rw [serve_of_error made] at ended
    cases ended
  | ok desired =>
    obtain ⟨existing, follows⟩ := serve_follows server made ⟨_, inNamespace⟩ s
    obtain ⟨-, granted⟩ := follows.granted_of_ok ended
    have ensured := serve_converges_of_own keeps plain made
      (fun d member => own_of_mem_routes spaced made member) s
    obtain ⟨result, came, rfl, converged⟩ := ensured.run granted
    rw [ended] at came
    exact ⟨desired, rfl, Except.ok.inj came, converged⟩

/-- After a pass that succeeds, of the hosts with one tag the last has a route, and the ingress has
    as many routes as there are tags, but its hosts are counted. All of them are covered just if no
    two have the same tag; the count is exported and right just if, besides, no host is repeated and
    the series of the gauge is not taken for another ingress. -/
theorem pass_counts_routes (keeps : server.KeepsRoutes reader routes)
    (spaced : ingress.metadata.inNamespace = some inNamespace)
    (live : ingress.metadata.deletionTimestamp = none)
    (plain : Route.Owner.Plain ⟨ingress.metadata.nameAny, inNamespace⟩) {m : Metrics}
    (recorded : m.Recorded) (seconds : Double) {s : σ} {conclusion : Conclusion}
    (ended : (ingress.pass.run.run server s).1 = .ok conclusion) :
    let owner : Route.Owner := ⟨ingress.metadata.nameAny, inNamespace⟩
    let hosts := ingress.routableHosts
    let tags := hosts.map Route.hostTag
    let after := routes (ingress.pass.run.run server s).2
    let counted := conclusion.events.foldl (fun m event => m.record seconds event) m
    (∀ host ∈ hosts, after.Covers owner host ↔ Route.lastAlike? hosts host = some host) ∧
    after.HoldsJust owner tags.toFinset.card ∧
    (∀ n, counted.routeCount? owner = some n ↔
      ¬m.Taken owner ∧ n = min hosts.length Metrics.greatestCount) ∧
    (∀ sample, sample ∈ counted.routeFamily.samples ∧ sample.labels = Metrics.routeLabels owner ↔
      ∃ n, counted.routeCount? owner = some n ∧
        sample = ⟨Metrics.routeName, Metrics.routeLabels owner, .ofNat n⟩) ∧
    ((∀ host ∈ hosts, after.Covers owner host) ↔
      Set.InjOn Route.hostTag {host | host ∈ hosts}) ∧
    ((∃ n, counted.routeCount? owner = some n ∧ after.HoldsJust owner n) ↔
      ¬m.Taken owner ∧ tags.Nodup) := by
  intro owner hosts tags after counted
  obtain ⟨desired, made, rfl, converged⟩ := pass_serves keeps spaced live plain ended
  obtain ⟨terms, rfl⟩ := exists_terms made
  have own : ∀ d ∈ hosts.map terms.route, d.owner? = some owner :=
    fun d member => (own_of_mem_routes spaced made member).1
  have covers : ∀ host ∈ hosts, after.Covers owner host ↔
      Route.lastAlike? hosts host = some host := fun host => converged.covers_iff own
  have holds : after.HoldsJust owner tags.toFinset.card := converged.holdsJust
  have gauge : ∀ n, counted.routeCount? owner = some n ↔
      ¬m.Taken owner ∧ n = min hosts.length Metrics.greatestCount := by
    intro n
    have shown : counted.routeCount? owner =
        (m.setRoutes owner (hosts.map terms.route).length).routeCount? owner := rfl
    rw [shown, recorded.routeCount?_setRoutes, List.length_map]
  refine ⟨covers, holds, gauge, ?_, ?_, ?_⟩
  · exact (recorded.foldl seconds _).mem_routeSamples owner
  · rw [← Route.lastAlike?_iff_injOn]
    exact forall₂_congr covers
  · rw [← Route.min_eq_card_tags_iff]
    constructor
    · rintro ⟨n, shown, exact_⟩
      obtain ⟨free, rfl⟩ := (gauge n).mp shown
      exact ⟨free, exact_.unique holds⟩
    · rintro ⟨free, same⟩
      exact ⟨_, (gauge _).mpr ⟨free, rfl⟩, same ▸ holds⟩

def leading (hosts : List String) : Ingress := { oneHost with spec := { rules := [{ hosts }] } }

theorem routes_leading (hosts : List String) : ∃ terms : RouteTerms,
    (leading hosts).routes = .ok ((hosts.filter Host.isExternal).map terms.route) := by
  have each := routeFor_cases (leading hosts)
  have clear : (leading hosts).obstacle? = none := by
    have one : oneHost.obstacle? = none := by decide
    exact one
  rw [clear] at each
  obtain ⟨terms, -, each⟩ := each
  have enabled : (leading hosts).isDisabled = false := rfl
  have external : (leading hosts).externalHosts = hosts.filter Host.isExternal := by
    simp [externalHosts, leading]
  refine ⟨terms, ?_⟩
  rw [Ingress.routes, enabled, external, funext each]
  exact List.mapM_pure

def firstPass (hosts : List String) : Except PassError Conclusion × RouteStore :=
  (leading hosts).pass.run.run (RouteStore.server Selector.equalityReader) ∅

def metricsAfter (m : Metrics) (conclusion : Conclusion) : Metrics :=
  conclusion.events.foldl (fun m event => m.record .zero event) m

/-- Metrics that show three routes for an ingress whose namespace and name, run together, are those
    of another. -/
def sharedMetrics : Metrics := Metrics.record {} .zero (.routesCounted ⟨"sweb", "app"⟩ 3)

theorem firstPass_serves (hosts : List String) : ∃ terms : RouteTerms,
    let desired := (hosts.filter Host.isExternal).map terms.route
    (firstPass hosts).1 = .ok (served oneHostOwner desired) ∧
      (∀ d ∈ desired, d.owner? = some oneHostOwner) ∧
      RouteTable.Converged oneHostOwner desired (RouteStore.routes ∅)
        (RouteStore.routes (firstPass hosts).2) := by
  obtain ⟨terms, made⟩ := routes_leading hosts
  have spaced : (leading hosts).metadata.inNamespace = some "apps" := rfl
  have keeps := RouteStore.server_keepsRoutes Selector.equalityReader
  have ensured := serve_converges_of_own keeps plain_oneHostOwner made
    (fun d member => own_of_mem_routes spaced made member) ∅
  have pass : (leading hosts).pass = (leading hosts).serve oneHostOwner := pass_of_live spaced rfl
  rw [← pass] at ensured
  obtain ⟨conclusion, ended, rfl, converged⟩ :=
    ensured.run (RouteStore.server_grants Selector.equalityReader _ ∅)
  exact ⟨terms, ended, fun d member => (own_of_mem_routes spaced made member).1, converged⟩

theorem pass_counts_routes_leading :
    let hosts := ["www.example.org", "example.org"]
    ∃ conclusion, (firstPass hosts).1 = .ok conclusion ∧
      (∀ host ∈ hosts, (RouteStore.routes (firstPass hosts).2).Covers oneHostOwner host) ∧
      ∃ n, (metricsAfter {} conclusion).routeCount? oneHostOwner = some n ∧
        (RouteStore.routes (firstPass hosts).2).HoldsJust oneHostOwner n := by
  intro hosts
  obtain ⟨terms, ended, -⟩ := firstPass_serves hosts
  have spaced : (leading hosts).metadata.inNamespace = some "apps" := rfl
  have counts := pass_counts_routes (RouteStore.server_keepsRoutes Selector.equalityReader) spaced
    rfl plain_oneHostOwner .nothing .zero ended
  obtain ⟨-, -, -, -, covered, counted⟩ := counts
  have asked : (leading hosts).routableHosts = hosts := by decide
  have apart : (hosts.map Route.hostTag).Nodup := by decide +kernel
  rw [asked] at covered counted
  refine ⟨_, ended, covered.mpr ?_, counted.mpr ⟨?_, apart⟩⟩
  · exact fun host member host' member' same => List.inj_on_of_nodup_map apart member member' same
  · exact Metrics.Recorded.nothing.not_taken_iff.mpr fun _ member => nomatch member

/-- A host that is listed twice is counted twice and has one route; of two hosts whose tags are
    alike the first has none; and a count may be shown for another ingress. -/
theorem pass_miscounts :
    let twice := ["www.example.org", "www.example.org"]
    let alike := ["cfp.example.org", "eue.example.org"]
    (∃ conclusion, (firstPass twice).1 = .ok conclusion ∧
      (metricsAfter {} conclusion).routeCount? oneHostOwner = some 2 ∧
      (RouteStore.routes (firstPass twice).2).HoldsJust oneHostOwner 1) ∧
    (∃ conclusion, (firstPass alike).1 = .ok conclusion ∧
      ¬(RouteStore.routes (firstPass alike).2).Covers oneHostOwner "cfp.example.org") ∧
    ∃ conclusion, (firstPass ["example.org"]).1 = .ok conclusion ∧
      (metricsAfter sharedMetrics conclusion).routeCount? oneHostOwner = none := by
  intro twice alike
  refine ⟨?_, ?_, ?_⟩
  · obtain ⟨terms, ended, -, converged⟩ := firstPass_serves twice
    have external : twice.filter Host.isExternal = twice := by decide
    have one : (twice.map Route.hostTag).toFinset.card = 1 := by simp [twice]
    rw [external] at ended converged
    have holds := converged.holdsJust
    rw [one] at holds
    exact ⟨_, ended, rfl, holds⟩
  · obtain ⟨terms, ended, own, converged⟩ := firstPass_serves alike
    have external : alike.filter Host.isExternal = alike := by decide
    have hidden : Route.lastAlike? alike "cfp.example.org" ≠ some "cfp.example.org" := by
      decide +kernel
    rw [external] at own converged
    refine ⟨_, ended, fun covered => ?_⟩
    exact hidden ((converged.covers_iff own List.mem_cons_self).mp covered)
  · obtain ⟨terms, ended, -⟩ := firstPass_serves ["example.org"]
    have recorded : sharedMetrics.Recorded := .event .nothing .zero _
    have taken : sharedMetrics.Taken oneHostOwner :=
      ⟨⟨"sweb", "app"⟩, by decide, by decide +kernel, rfl⟩
    refine ⟨_, ended, Option.eq_none_iff_forall_ne_some.mpr fun n shown => ?_⟩
    exact ((recorded.routeCount?_setRoutes oneHostOwner _ n).mp shown).1 taken

end Ingress

end ServingOperator
