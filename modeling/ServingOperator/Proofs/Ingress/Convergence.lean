import ServingOperator.Proofs.Ingress.Routes
import ServingOperator.Proofs.Ingress.Stages
import ServingOperator.Proofs.Pass.Trace
import ServingOperator.Proofs.Route.Keeper

namespace ServingOperator

def Route.lastIn? (desired : List Route) (inNamespace name : String) : Option Route :=
  desired.reverse.find? fun d => d.key = (some inNamespace, some name)

theorem Route.lastIn?_cons (d : Route) (desired : List Route) (inNamespace name : String) :
    lastIn? (d :: desired) inNamespace name =
      (lastIn? desired inNamespace name).or
        (if d.key = (some inNamespace, some name) then some d else none) := by
  rw [lastIn?, List.reverse_cons, List.find?_append]
  by_cases here : d.key = (some inNamespace, some name) <;> simp [lastIn?, here]

theorem Route.lastIn?_isSome_iff {desired : List Route} {inNamespace name : String} :
    (lastIn? desired inNamespace name).isSome = true ↔
      ∃ d ∈ desired, d.key = (some inNamespace, some name) := by
  simp [lastIn?, List.find?_isSome]

namespace RouteTable

structure Served (desired : List Route) (before after : RouteTable) : Prop where
  carried : ∀ inNamespace name d, Route.lastIn? desired inNamespace name = some d →
    ∃ r, after inNamespace name = some r ∧ d.CarriedBy r
  elsewhere : ∀ inNamespace name, Route.lastIn? desired inNamespace name = none →
    after inNamespace name = before inNamespace name

structure Cleared (places : List (String × String)) (before after : RouteTable) : Prop where
  gone : ∀ {inNamespace name}, (inNamespace, name) ∈ places → after inNamespace name = none
  elsewhere : ∀ {inNamespace name}, (inNamespace, name) ∉ places →
    after inNamespace name = before inNamespace name

theorem Served.nil (table : RouteTable) : Served [] table table :=
  ⟨fun _ _ _ found => (nomatch found), fun _ _ _ => rfl⟩

theorem Served.cons {inNamespace name : String} {d : Route} {desired : List Route}
    {before middle after : RouteTable} (key : d.key = (some inNamespace, some name))
    (first : Applied inNamespace name d before middle) (rest : Served desired middle after) :
    Served (d :: desired) before after := by
  refine ⟨fun space n last found => ?_, fun space n found => ?_⟩
  · rw [Route.lastIn?_cons] at found
    cases later : Route.lastIn? desired space n with
    | some d' =>
      rw [later] at found
      cases found
      exact rest.carried space n _ later
    | none =>
      rw [later, Option.none_or] at found
      split at found
      · rename_i here
        cases found
        rw [key] at here
        cases here
        rw [rest.elsewhere _ _ later]
        exact first.carried
      · cases found
  · rw [Route.lastIn?_cons, Option.or_eq_none_iff] at found
    obtain ⟨later, other⟩ := found
    rw [rest.elsewhere space n later]
    apply first.elsewhere
    intro same
    cases same
    rw [if_pos key] at other
    cases other

theorem Cleared.nil (table : RouteTable) : Cleared [] table table :=
  ⟨fun member => (nomatch member), fun _ => rfl⟩

theorem Cleared.cons {place : String × String} {places : List (String × String)}
    {before middle after : RouteTable} (first : Deleted place.1 place.2 before middle)
    (rest : Cleared places middle after) : Cleared (place :: places) before after := by
  refine ⟨fun {space n} member => ?_, fun {space n} absent => ?_⟩
  · by_cases later : (space, n) ∈ places
    · exact rest.gone later
    · rw [rest.elsewhere later]
      rcases List.mem_cons.mp member with rfl | member
      · exact first.gone
      · exact absurd member later
  · simp only [List.mem_cons, not_or] at absent
    rw [rest.elsewhere absent.2]
    exact first.elsewhere absent.1

/-- The routes of an ingress are those that are desired, each as it is desired last, and the routes
    of others in other places are as before. -/
structure Converged (o : Route.Owner) (desired : List Route) (before after : RouteTable) :
    Prop where
  holds : ∀ inNamespace name, after.Holds o inNamespace name ↔
    ∃ d ∈ desired, d.key = (some inNamespace, some name)
  carried : ∀ inNamespace name d, Route.lastIn? desired inNamespace name = some d →
    ∃ r, after inNamespace name = some r ∧ d.CarriedBy r
  untouched : ∀ inNamespace name, ¬before.Holds o inNamespace name →
    (∀ d ∈ desired, d.key ≠ (some inNamespace, some name)) →
    after inNamespace name = before inNamespace name

theorem Converged.of_served {o : Route.Owner} {desired : List Route}
    {places : List (String × String)} {before middle after : RouteTable}
    (own : ∀ d ∈ desired, d.owner? = some o) (served : Served desired before middle)
    (cleared : Cleared places middle after)
    (stale : ∀ inNamespace name, (inNamespace, name) ∈ places ↔ middle.Holds o inNamespace name ∧
      ∀ d ∈ desired, d.key ≠ (some inNamespace, some name)) :
    Converged o desired before after := by
  have kept : ∀ {inNamespace name}, (∃ d ∈ desired, d.key = (some inNamespace, some name)) →
      after inNamespace name = middle inNamespace name := by
    rintro inNamespace name ⟨d, member, key⟩
    apply cleared.elsewhere
    intro place
    exact ((stale inNamespace name).mp place).2 d member key
  have carried : ∀ inNamespace name d, Route.lastIn? desired inNamespace name = some d →
      ∃ r, after inNamespace name = some r ∧ d.CarriedBy r := by
    intro inNamespace name d last
    have wanted := Route.lastIn?_isSome_iff.mp (by rw [last]; rfl)
    rw [kept wanted]
    exact served.carried inNamespace name d last
  refine ⟨fun inNamespace name => ⟨?_, ?_⟩, carried, ?_⟩
  · rintro ⟨r, found, labelled⟩
    by_contra undesired
    have unkept : (inNamespace, name) ∉ places := by
      intro place
      rw [cleared.gone place] at found
      cases found
    rw [cleared.elsewhere unkept] at found
    apply unkept
    refine (stale inNamespace name).mpr ⟨⟨r, found, labelled⟩, fun d member key => ?_⟩
    exact undesired ⟨d, member, key⟩
  · intro wanted
    obtain ⟨d, last⟩ := Option.isSome_iff_exists.mp (Route.lastIn?_isSome_iff.mpr wanted)
    obtain ⟨r, found, carries⟩ := carried inNamespace name d last
    have member : d ∈ desired := List.mem_reverse.mp (List.mem_of_find?_eq_some last)
    exact ⟨r, found, carries.owner? (own d member)⟩
  · intro inNamespace name foreign undesired
    have last : Route.lastIn? desired inNamespace name = none := by
      rw [← Option.not_isSome_iff_eq_none, Route.lastIn?_isSome_iff]
      rintro ⟨d, member, key⟩
      exact undesired d member key
    have same := served.elsewhere inNamespace name last
    rw [← same]
    apply cleared.elsewhere
    intro place
    obtain ⟨⟨r, found, labelled⟩, -⟩ := (stale inNamespace name).mp place
    rw [same] at found
    exact foreign ⟨r, found, labelled⟩

end RouteTable

namespace Ingress

open RouteTable

variable {σ : Type} {server : ApiServer σ} {reader : Selector.Reader} {routes : σ → RouteTable}

theorem setFinalizers_ensures (keeps : server.KeepsRoutes reader routes) (ingress : Ingress)
    (inNamespace : String) (finalizers : List String) (s : σ) :
    (Attempt.change (ingress.setFinalizers inNamespace finalizers)).Ensures (granting server)
      (fun _ => True) False (fun _ s' => routes s' = routes s) s := by
  apply Attempt.Ensures.change
  rintro _ rfl answer s' ⟨given, granted⟩
  refine ⟨trivial, fun _ => ?_, fun refused => refused granted⟩
  have same := keeps.merge (.ingress inNamespace ingress.metadata.nameAny)
    (finalizerPatch finalizers) s
  rw [setFinalizers] at given
  rwa [given] at same

theorem applyRoutes_ensures (keeps : server.KeepsRoutes reader routes) {desired : List Route}
    (addressed : ∀ d ∈ desired, ∃ inNamespace name, d.key = (some inNamespace, some name)) (s : σ) :
    (desired.forM fun route => Attempt.change (applyRoute route)).Ensures (granting server)
      (fun _ => True) False (fun _ s' => Served desired (routes s) (routes s')) s := by
  induction desired generalizing s with
  | nil => exact .nil _
  | cons d desired ih =>
    obtain ⟨inNamespace, name, key⟩ := addressed d List.mem_cons_self
    apply Attempt.Ensures.bind
    apply Attempt.Ensures.change
    rintro _ rfl answer s' ⟨given, granted⟩
    refine ⟨trivial, fun done => ?_, fun refused => refused granted⟩
    subst done
    have place : applyRoute d = .applyRoute inNamespace name d := by
      unfold Route.key at key
      simp only [Prod.mk.injEq] at key
      simp [applyRoute, ObjectMeta.nameAny, key]
    rw [place] at given
    have rest := ih (fun d member => addressed d (List.mem_cons_of_mem _ member)) s'
    exact rest.mono fun _ _ served => .cons key (keeps.apply given) served

theorem deleteAll_ensures (keeps : server.KeepsRoutes reader routes)
    (places : List (String × String)) (s : σ) :
    (places.forM fun (inNamespace, name) => Attempt.delete inNamespace name).Ensures
      (granting server) (fun _ => True) False
      (fun _ s' => Cleared places (routes s) (routes s')) s := by
  induction places generalizing s with
  | nil => exact .nil _
  | cons place places ih =>
    apply Attempt.Ensures.bind
    apply Attempt.Ensures.delete
    rintro _ rfl answer s' ⟨given, granted⟩
    refine ⟨trivial, fun good => ?_, fun refused => refused granted⟩
    exact (ih s').mono fun _ _ cleared => .cons (keeps.delete given good) cleared

theorem deleteStale_clears (keeps : server.KeepsRoutes reader routes) {o : Route.Owner}
    (plain : o.Plain) (desired : List Route) (s : σ) :
    (deleteStale o desired).Ensures (granting server) (fun _ => True) False
      (fun _ s' => ∃ places, Cleared places (routes s) (routes s') ∧ ∀ inNamespace name,
        (inNamespace, name) ∈ places ↔ (routes s).Holds o inNamespace name ∧
          ∀ d ∈ desired, d.key ≠ (some inNamespace, some name)) s := by
  unfold deleteStale
  apply Attempt.Ensures.bind
  apply Attempt.Ensures.routesOf
  rintro _ rfl answer s' ⟨given, granted⟩
  refine ⟨trivial, fun existing answered => ?_, fun e refused => ?_⟩
  · subst answered
    obtain ⟨lists, same⟩ := keeps.list given
    refine (deleteAll_ensures keeps _ s').mono fun _ after cleared => ⟨_, same ▸ cleared, ?_⟩
    intro inNamespace name
    exact Route.mem_stale_of_lists plain (keeps.addressed s) lists
  · obtain ⟨existing, answered⟩ := granted
    rw [refused] at answered
    cases answered

theorem secure_keeps_routes (keeps : server.KeepsRoutes reader routes) (ingress : Ingress)
    (o : Route.Owner) (s : σ) :
    (ingress.secure o).Ensures (granting server) (fun _ => True) False
      (fun _ s' => routes s' = routes s) s := by
  unfold secure
  split
  · exact Attempt.Ensures.pure rfl
  · exact setFinalizers_ensures keeps ingress _ _ s

theorem serve_converges_of_own (keeps : server.KeepsRoutes reader routes) {ingress : Ingress}
    {o : Route.Owner} (plain : o.Plain) {desired : List Route}
    (made : ingress.routes = .ok desired)
    (own : ∀ d ∈ desired, d.owner? = some o ∧
      ∃ inNamespace name, d.key = (some inNamespace, some name)) (s : σ) :
    (ingress.serve o).Ensures (granting server) (fun _ => True) False
      (fun conclusion s' => conclusion = served o desired ∧
        Converged o desired (routes s) (routes s')) s := by
  rw [serve_of_routes made]
  apply Attempt.Ensures.bind
  refine (secure_keeps_routes keeps ingress o s).mono fun _ secured same => ?_
  apply Attempt.Ensures.bind
  have addressed := fun d member => (own d member).2
  refine (applyRoutes_ensures keeps addressed secured).mono fun _ applied served => ?_
  rw [same] at served
  apply Attempt.Ensures.bind
  refine (deleteStale_clears keeps plain desired applied).mono fun _ after => ?_
  rintro ⟨places, cleared, stale⟩
  have labelled := fun d member => (own d member).1
  exact Attempt.Ensures.pure ⟨rfl, .of_served labelled served cleared stale⟩

theorem serve_converges (keeps : server.KeepsRoutes reader routes) {ingress : Ingress}
    {o : Route.Owner} (plain : o.Plain) (named : ingress.metadata.name = some o.name)
    (spaced : ingress.metadata.inNamespace = some o.inNamespace) {desired : List Route}
    (made : ingress.routes = .ok desired) (s : σ) :
    (ingress.serve o).Ensures (granting server) (fun _ => True) False
      (fun conclusion s' => conclusion = served o desired ∧
        Converged o desired (routes s) (routes s')) s :=
  serve_converges_of_own keeps plain made
    (fun _ member => owner?_of_mem_routes made named spaced member) s

theorem release_converges (keeps : server.KeepsRoutes reader routes) {ingress : Ingress}
    {o : Route.Owner} (plain : o.Plain) (has : ingress.hasFinalizer = true) (s : σ) :
    (ingress.release o).Ensures (granting server) (fun _ => True) False
      (fun conclusion s' => conclusion = released o ∧ Converged o [] (routes s) (routes s')) s := by
  rw [release_of_finalizer has]
  apply Attempt.Ensures.bind
  refine (deleteStale_clears keeps plain [] s).mono fun _ cleared_state => ?_
  rintro ⟨places, cleared, stale⟩
  apply Attempt.Ensures.bind
  refine (setFinalizers_ensures keeps ingress _ _ cleared_state).mono fun _ after same => ?_
  rw [← same] at cleared
  exact Attempt.Ensures.pure
    ⟨rfl, .of_served (fun _ member => nomatch member) (.nil _) cleared stale⟩

/-- A pass whose requests are granted makes the routes of a live ingress those that it asks for,
    and leaves none to an ingress that is being deleted and still held. -/
theorem pass_converges (keeps : server.KeepsRoutes reader routes) {ingress : Ingress}
    {o : Route.Owner} (plain : o.Plain) (named : ingress.metadata.name = some o.name)
    (spaced : ingress.metadata.inNamespace = some o.inNamespace) (s : σ)
    (granted : ∀ exchange ∈ ingress.pass.run.trace server s, exchange.Granted) :
    let result := ingress.pass.run.run server s
    (∀ desired, ingress.metadata.deletionTimestamp = none → ingress.routes = .ok desired →
      result.1 = .ok (served o desired) ∧ Converged o desired (routes s) (routes result.2)) ∧
    (ingress.metadata.deletionTimestamp.isSome = true → ingress.hasFinalizer = true →
      result.1 = .ok (released o) ∧ Converged o [] (routes s) (routes result.2)) := by
  intro result
  have owner : (⟨ingress.metadata.nameAny, o.inNamespace⟩ : Route.Owner) = o := by
    rw [ObjectMeta.nameAny, named]
    rfl
  constructor
  · intro desired live made
    have pass : ingress.pass = ingress.serve o := by rw [pass_of_live spaced live, owner]
    have ensured := serve_converges keeps plain named spaced made s
    rw [← pass] at ensured
    obtain ⟨conclusion, ended, rfl, converged⟩ := ensured.run granted
    exact ⟨ended, converged⟩
  · intro deleted has
    have pass : ingress.pass = ingress.release o := by rw [pass_of_deleted spaced deleted, owner]
    have ensured := release_converges keeps plain has s
    rw [← pass] at ensured
    obtain ⟨conclusion, ended, rfl, converged⟩ := ensured.run granted
    exact ⟨ended, converged⟩

def oneHostDeleted : Ingress := { oneHost with metadata := { oneHost.metadata with
  finalizers := some [finalizer]
  deletionTimestamp := some ⟨"2024-01-31T12:00:00Z", by decide⟩ } }

def movedStore : RouteStore := AList.insert ("old-edge", "route-old") oneHostRoute ∅

/-- A gateway that moved takes its route along, and a deleted ingress leaves none behind. -/
theorem pass_converges_oneHost :
    let before := RouteStore.routes movedStore
    let after (ingress : Ingress) := RouteStore.routes
      (ingress.pass.run.run (RouteStore.server Selector.equalityReader) movedStore).2
    before.Holds oneHostOwner "old-edge" "route-old" ∧
      (after oneHost).Holds oneHostOwner "edge" (Route.nameFor "1" "www.example.org") ∧
      ¬(after oneHost).Holds oneHostOwner "old-edge" "route-old" ∧
      ¬(after oneHostDeleted).Holds oneHostOwner "old-edge" "route-old" := by
  intro before after
  have granted (ingress : Ingress) := RouteStore.server_grants Selector.equalityReader
    ingress.pass.run movedStore
  have keeps := RouteStore.server_keepsRoutes Selector.equalityReader
  obtain ⟨live, -⟩ := pass_converges keeps plain_oneHostOwner rfl rfl movedStore (granted oneHost)
  obtain ⟨-, deleted⟩ := pass_converges keeps plain_oneHostOwner rfl rfl movedStore
    (granted oneHostDeleted)
  obtain ⟨-, served⟩ := live [oneHostRoute] rfl routes_oneHost
  obtain ⟨-, cleared⟩ := deleted rfl (by decide)
  refine ⟨⟨_, rfl, owner?_oneHostRoute⟩, ?_, ?_, ?_⟩
  · exact (served.holds _ _).mpr ⟨oneHostRoute, List.mem_singleton_self _, rfl⟩
  · intro left
    obtain ⟨d, member, key⟩ := (served.holds _ _).mp left
    obtain rfl := List.mem_singleton.mp member
    have space : oneHostRoute.metadata.inNamespace = some "old-edge" := congrArg Prod.fst key
    exact absurd space (by decide)
  · intro left
    obtain ⟨d, member, -⟩ := (cleared.holds _ _).mp left
    cases member

end Ingress

end ServingOperator
