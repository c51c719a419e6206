import ServingOperator.Proofs.Ingress.Routes
import ServingOperator.Proofs.Ingress.Stages
import ServingOperator.Proofs.Ingress.World

namespace ServingOperator

theorem Ingress.kept?_of_hasFinalizer {i : Ingress} (h : i.hasFinalizer = true) :
    i.kept? = some i := by
  have member := hasFinalizer_iff.mp h
  unfold kept?
  rw [if_neg]
  rintro ⟨-, none_left⟩
  rw [none_left] at member
  cases member

namespace Cluster

variable {slot : Route.Owner} {s s' : Cluster slot}

def Held (s : Cluster slot) : Prop := ∃ i, s.ingress = some i ∧ i.hasFinalizer = true

/-- Where there is a route for the ingress, the ingress is held. -/
def Safe (s : Cluster slot) : Prop :=
  ∀ inNamespace name, s.routes.Holds slot inNamespace name → s.Held

structure Undisturbed (s s' : Cluster slot) : Prop where
  held : s.Held → s'.Held
  holds : ∀ inNamespace name,
    s'.routes.Holds slot inNamespace name ↔ s.routes.Holds slot inNamespace name

theorem Undisturbed.safe (h : Undisturbed s s') (safe : s.Safe) : s'.Safe :=
  fun inNamespace name holds => h.held (safe inNamespace name ((h.holds inNamespace name).mp holds))

theorem Held.of_ingress (held : s.Held) (same : s'.ingress = s.ingress) : s'.Held := by
  obtain ⟨i, present, has⟩ := held
  exact ⟨i, same.trans present, has⟩

theorem Held.of_kept {i : Ingress} (has : i.hasFinalizer = true) (after : s'.ingress = i.kept?) :
    s'.Held :=
  ⟨i, after.trans (Ingress.kept?_of_hasFinalizer has), has⟩

theorem External.undisturbed (h : s.External s') : Undisturbed s s' := by
  cases h with
  | created absent after routes =>
    refine ⟨?_, fun _ _ => by rw [routes]⟩
    rintro ⟨i, present, -⟩
    rw [absent] at present
    cases present
  | edited present edit after routes =>
    refine ⟨?_, fun _ _ => by rw [routes]⟩
    rintro ⟨stored, present', has⟩
    obtain rfl := Option.some.inj (present'.symm.trans present)
    exact .of_kept (edit.finalizer.trans has) after
  | deleted present time after routes =>
    refine ⟨?_, fun _ _ => by rw [routes]⟩
    rintro ⟨stored, present', has⟩
    obtain rfl := Option.some.inj (present'.symm.trans present)
    have kept : (stored.deletedAt time).hasFinalizer = true := has
    exact .of_kept kept after
  | foreign ingress routes =>
    refine ⟨fun held => held.of_ingress ingress, fun inNamespace name => ?_⟩
    constructor
    · rintro ⟨r, kept, own⟩
      exact ⟨r, (routes inNamespace name r own).mp kept, own⟩
    · rintro ⟨r, kept, own⟩
      exact ⟨r, (routes inNamespace name r own).mpr kept, own⟩

theorem undisturbed_of_external (h : Relation.ReflTransGen External s s') : Undisturbed s s' := by
  induction h with
  | refl => exact ⟨id, fun _ _ => Iff.rfl⟩
  | tail _ last ih =>
    have next := last.undisturbed
    exact ⟨fun held => next.held (ih.held held),
      fun inNamespace name => (next.holds inNamespace name).trans (ih.holds inNamespace name)⟩

theorem Answers.unchanged_or_effect {c : Change} {answer : Except ApiFailure Unit}
    (h : s.Answers c answer s') : s' = s ∨ Effect c s s' := by
  cases h with
  | done effect => exact .inr effect
  | refused failure absent => exact .inl rfl
  | lost failure effect => exact .inr effect

theorem Answers.effect {c : Change} (h : s.Answers c (.ok ()) s') : Effect c s s' := by
  cases h with
  | done effect => exact effect

theorem Effect.setFinalizers {finalizers : List String}
    (h : Effect (.merge (.ingress slot.inNamespace slot.name) (Ingress.finalizerPatch finalizers))
      s s') :
    (Ingress.finalizer ∈ finalizers → s'.Held) ∧ s'.routes = s.routes := by
  cases h with
  | patched present read after routes =>
    rw [Ingress.patched?_finalizerPatch] at read
    cases read
    refine ⟨fun member => .of_kept ?_ after, routes⟩
    exact Ingress.hasFinalizer_iff.mpr member
  | elsewhere other => exact absurd rfl other

theorem Effect.apply {inNamespace name : String} {route : Route}
    (h : Effect (.applyRoute inNamespace name route) s s') : s'.ingress = s.ingress := by
  cases h with
  | applied routes ingress => exact ingress

theorem Effect.delete {inNamespace name : String}
    (h : Effect (.deleteRoute inNamespace name) s s') :
    RouteTable.Deleted inNamespace name s.routes s'.routes ∧ s'.ingress = s.ingress := by
  cases h with
  | deleted routes ingress => exact ⟨routes, ingress⟩

theorem Answers.deleted {inNamespace name : String} {answer : Except ApiFailure Unit}
    (h : s.Answers (.deleteRoute inNamespace name) answer s')
    (good : answer = .ok () ∨ answer = .error .notFound) :
    RouteTable.Deleted inNamespace name s.routes s'.routes ∧ s'.ingress = s.ingress := by
  cases h with
  | done effect => exact effect.delete
  | lost failure effect => exact effect.delete
  | refused failure absent =>
    rcases good with good | good
    · cases good
    · cases good
      exact ⟨⟨absent inNamespace name rfl rfl, fun _ => rfl⟩, rfl⟩

theorem Safe.of_deleted {inNamespace name : String} (safe : s.Safe)
    (h : RouteTable.Deleted inNamespace name s.routes s'.routes)
    (ingress : s'.ingress = s.ingress) :
    s'.Safe := by
  intro space n holds
  obtain ⟨before, -⟩ := RouteTable.Holds.of_deleted h holds
  exact (safe space n before).of_ingress ingress

end Cluster

namespace Ingress

open Cluster

variable {slot : Route.Owner} {s : Cluster slot}

def Remaining (desired : List Route) (places : List (String × String)) (s : Cluster slot) : Prop :=
  s.Safe ∧ ∀ inNamespace name, s.routes.Holds slot inNamespace name →
    (∀ d ∈ desired, d.key ≠ (some inNamespace, some name)) → (inNamespace, name) ∈ places

theorem delete_ensures (reader : Selector.Reader) {desired : List Route} {place : String × String}
    {places : List (String × String)} (h : Remaining desired (place :: places) s) :
    (Attempt.delete place.1 place.2).Ensures (surroundings reader) Safe True
      (fun _ => Remaining desired places) s := by
  obtain ⟨safe, left⟩ := h
  apply Attempt.Ensures.delete
  intro s' moved answer s'' given
  have same := undisturbed_of_external moved
  have safe' := same.safe safe
  refine ⟨?_, fun good => ?_, fun _ => trivial⟩
  · rcases given.unchanged_or_effect with rfl | effect
    · exact safe'
    · exact safe'.of_deleted effect.delete.1 effect.delete.2
  · obtain ⟨deleted, ingress⟩ := given.deleted good
    refine ⟨safe'.of_deleted deleted ingress, fun inNamespace name holds undesired => ?_⟩
    obtain ⟨before, other⟩ := RouteTable.Holds.of_deleted deleted holds
    have member := left inNamespace name ((same.holds _ _).mp before) undesired
    exact List.mem_of_ne_of_mem other member

theorem deleteStale_ensures (reader : Selector.Reader) (plain : slot.Plain) (desired : List Route)
    (safe : s.Safe) :
    (deleteStale slot desired).Ensures (surroundings reader) Safe True
      (fun _ => Remaining desired []) s := by
  unfold deleteStale
  apply Attempt.Ensures.bind
  apply Attempt.Ensures.routesOf
  rintro s' moved answer s'' ⟨listed, rfl⟩
  have safe' := (undisturbed_of_external moved).safe safe
  refine ⟨safe', fun existing answered => ?_, fun _ _ => trivial⟩
  have complete := listed existing answered
  refine Attempt.Ensures.forM (Remaining desired) (fun _ _ _ => delete_ensures reader) _ ⟨safe', ?_⟩
  intro inNamespace name holds undesired
  exact (Route.mem_stale_of_lists plain s''.addressed complete).mpr ⟨holds, undesired⟩

theorem applyRoute_ensures (reader : Selector.Reader) (route : Route) (held : s.Held) :
    (Attempt.change (applyRoute route)).Ensures (surroundings reader) Safe True
      (fun _ => Held) s := by
  apply Attempt.Ensures.change
  intro s' moved answer s'' given
  have held' := (undisturbed_of_external moved).held held
  have held'' : s''.Held := by
    rcases given.unchanged_or_effect with rfl | effect
    · exact held'
    · exact held'.of_ingress effect.apply
  exact ⟨fun _ _ _ => held'', fun _ => held'', fun _ => trivial⟩

theorem secure_ensures (reader : Selector.Reader) {ingress : Ingress}
    (named : ingress.metadata.nameAny = slot.name) (safe : s.Safe)
    (held : ingress.hasFinalizer = true → s.Held) :
    (ingress.secure slot).Ensures (surroundings reader) Safe True (fun _ => Held) s := by
  unfold secure
  split
  · rename_i has
    exact Attempt.Ensures.pure (held has)
  · rw [setFinalizers, named]
    have member : finalizer ∈ ingress.metadata.finalizerList ++ [finalizer] := by simp
    apply Attempt.Ensures.change
    intro s' moved answer s'' given
    have safe' := (undisturbed_of_external moved).safe safe
    refine ⟨?_, fun done => ?_, fun _ => trivial⟩
    · rcases given.unchanged_or_effect with rfl | effect
      · exact safe'
      · exact fun _ _ _ => effect.setFinalizers.1 member
    · subst done
      exact given.effect.setFinalizers.1 member

theorem unsecure_ensures (reader : Selector.Reader) {ingress : Ingress}
    (named : ingress.metadata.nameAny = slot.name) (h : Remaining [] [] s) :
    (ingress.unsecure slot).Ensures (surroundings reader) Safe True (fun _ _ => True) s := by
  have clean : ∀ inNamespace name, ¬ s.routes.Holds slot inNamespace name := by
    intro inNamespace name holds
    cases h.2 inNamespace name holds (by simp)
  rw [unsecure, setFinalizers, named]
  apply Attempt.Ensures.change
  intro s' moved answer s'' given
  have same := undisturbed_of_external moved
  have clean' : ∀ inNamespace name, ¬ s''.routes.Holds slot inNamespace name := by
    intro inNamespace name holds
    apply clean inNamespace name
    rw [← same.holds]
    rcases given.unchanged_or_effect with rfl | effect
    · exact holds
    · rwa [← effect.setFinalizers.2]
  exact ⟨fun _ _ holds => absurd holds (clean' _ _), fun _ => trivial, fun _ => trivial⟩

theorem release_ensures (reader : Selector.Reader) (plain : slot.Plain) {ingress : Ingress}
    (named : ingress.metadata.nameAny = slot.name) (safe : s.Safe) :
    (ingress.release slot).Ensures (surroundings reader) Safe True (fun _ _ => True) s := by
  cases has : ingress.hasFinalizer with
  | false =>
    rw [release_of_no_finalizer has]
    exact Attempt.Ensures.pure trivial
  | true =>
    rw [release_of_finalizer has]
    apply Attempt.Ensures.bind
    refine (deleteStale_ensures reader plain [] safe).mono fun _ s none_left => ?_
    apply Attempt.Ensures.bind
    exact (unsecure_ensures reader named none_left).mono fun _ _ _ => Attempt.Ensures.pure trivial

theorem serve_ensures (reader : Selector.Reader) (plain : slot.Plain) {ingress : Ingress}
    (named : ingress.metadata.nameAny = slot.name) (safe : s.Safe)
    (held : ingress.hasFinalizer = true → s.Held) :
    (ingress.serve slot).Ensures (surroundings reader) Safe True (fun _ _ => True) s := by
  cases made : ingress.routes with
  | error e =>
    rw [serve_of_error made]
    exact Attempt.Ensures.throw _ trivial
  | ok desired =>
    rw [serve_of_routes made]
    apply Attempt.Ensures.bind
    refine (secure_ensures reader named safe held).mono fun _ s held => ?_
    apply Attempt.Ensures.bind
    have applied := Attempt.Ensures.forM (f := fun route => Attempt.change (applyRoute route))
      (fun _ => Held) (fun route _ s => applyRoute_ensures reader route) desired held
    refine applied.mono fun _ s held => ?_
    apply Attempt.Ensures.bind
    refine (deleteStale_ensures reader plain desired fun _ _ _ => held).mono fun _ _ _ => ?_
    exact Attempt.Ensures.pure trivial

theorem pass_ensures (reader : Selector.Reader) {ingress : Ingress}
    (present : s.ingress = some ingress) (safe : s.Safe) :
    ingress.pass.Ensures (surroundings reader) Safe True (fun _ _ => True) s := by
  obtain ⟨name, spaced, plain⟩ := s.admitted ingress present
  have named : ingress.metadata.nameAny = slot.name := by
    rw [ObjectMeta.nameAny, name]
    rfl
  cases deletion : ingress.metadata.deletionTimestamp with
  | none =>
    rw [pass_of_live spaced deletion, named]
    exact serve_ensures reader plain named safe fun has => ⟨ingress, present, has⟩
  | some time =>
    rw [pass_of_deleted spaced (by rw [deletion]; rfl), named]
    exact release_ensures reader plain named safe

end Ingress

namespace World

open Cluster

variable {slot : Route.Owner} {reader : Selector.Reader}

structure Sound (reader : Selector.Reader) (w : World slot) : Prop where
  safe : w.cluster.Safe
  running : ∀ p, w.running = some p →
    p.Ensures (surroundings reader) Safe (fun _ _ => True) w.cluster

theorem Sound.step {w w' : World slot} (sound : w.Sound reader) (next : Step reader w w') :
    w'.Sound reader := by
  obtain ⟨safe, running⟩ := sound
  cases next with
  | others moved =>
    refine ⟨moved.undisturbed.safe safe, fun p under_way => ?_⟩
    exact (running p under_way).moved Relation.ReflTransGen.trans (fun _ h => h) (.single moved)
  | begun present =>
    refine ⟨safe, fun p started => ?_⟩
    cases started
    exact Pass.Ensures.mono (fun _ _ _ => trivial) (Ingress.pass_ensures reader present safe)
  | facts answers =>
    refine ⟨safe, fun p under_way => ?_⟩
    cases under_way
    exact running _ rfl _ .refl answers trivial
  | changed given =>
    obtain ⟨safe', rest⟩ := running _ rfl _ .refl _ _ given
    refine ⟨safe', fun p under_way => ?_⟩
    cases under_way
    exact rest
  | listed given =>
    obtain ⟨safe', rest⟩ := running _ rfl _ .refl _ _ ⟨given, rfl⟩
    refine ⟨safe', fun p under_way => ?_⟩
    cases under_way
    exact rest
  | ended => exact ⟨safe, fun p under_way => nomatch under_way⟩

theorem sound_of_reachable {w : World slot} (h : Reachable reader w) : w.Sound reader := by
  induction h with
  | initial absent clean =>
    exact ⟨fun _ _ holds => absurd holds (clean _ _), fun p under_way => nomatch under_way⟩
  | step before next ih => exact ih.step next

/-- Where there is a route for an ingress, the ingress exists and carries the finalizer. -/
theorem ingress_held_of_route {w : World slot} (reached : Reachable reader w)
    {inNamespace name : String} (route : w.cluster.routes.Holds slot inNamespace name) :
    ∃ i, w.cluster.ingress = some i ∧ i.hasFinalizer = true :=
  (sound_of_reachable reached).safe inNamespace name route

def oneHostCluster (finalizers : Option (Option (List String))) (route : Option Route) :
    Cluster Ingress.oneHostOwner where
  ingress := finalizers.map fun finalizers => { Ingress.oneHost with
    metadata := { Ingress.oneHost.metadata with finalizers } }
  routes inNamespace name := route.filter fun r => r.key = (some inNamespace, some name)
  admitted i present := by
    obtain ⟨finalizers, -, rfl⟩ := Option.map_eq_some_iff.mp present
    exact ⟨rfl, rfl, Ingress.plain_oneHostOwner⟩
  addressed _ _ _ kept := by
    simpa using (Option.filter_eq_some_iff.mp kept).2

theorem oneHostCluster_routes (finalizers : Option (Option (List String))) {r : Route}
    {inNamespace name : String} (key : r.key = (some inNamespace, some name)) :
    RouteTable.Applied inNamespace name r (oneHostCluster finalizers none).routes
        (oneHostCluster finalizers (some r)).routes ∧
      (oneHostCluster finalizers (some r)).routes inNamespace name = some r := by
  have here : (oneHostCluster finalizers (some r)).routes inNamespace name = some r := by
    simp [oneHostCluster, Option.filter, key]
  refine ⟨⟨⟨r, here, .refl r⟩, fun {space n} other => ?_⟩, here⟩
  have elsewhere : r.key ≠ (some space, some n) := by
    rw [key]
    intro same
    simp only [Prod.mk.injEq, Option.some.injEq] at same
    exact other (by rw [same.1, same.2])
  simp [oneHostCluster, Option.filter, elsewhere]

theorem pass_oneHost : ∃ next next',
    Ingress.oneHost.pass.run =
        .change (Ingress.oneHost.setFinalizers "apps" [Ingress.finalizer]) next ∧
      next (.ok ()) = .change (Ingress.applyRoute Ingress.oneHostRoute) next' := by
  have spaced : Ingress.oneHost.metadata.inNamespace = some "apps" := rfl
  rw [Ingress.pass_of_live spaced rfl, Ingress.serve_of_routes Ingress.routes_oneHost]
  exact ⟨_, _, rfl, rfl⟩

theorem ingress_held_of_first_route : ∃ w : World Ingress.oneHostOwner,
    Reachable Selector.equalityReader w ∧
      (∃ inNamespace name, w.cluster.routes.Holds Ingress.oneHostOwner inNamespace name) ∧
      ∃ i, w.cluster.ingress = some i ∧ i.hasFinalizer = true := by
  let empty := oneHostCluster none none
  let live := oneHostCluster (some none) none
  let secured := oneHostCluster (some (some [Ingress.finalizer])) none
  let served := oneHostCluster (some (some [Ingress.finalizer])) (some Ingress.oneHostRoute)
  obtain ⟨next, next', first, second⟩ := pass_oneHost
  have start : Reachable Selector.equalityReader ⟨empty, none⟩ := by
    refine .initial rfl ?_
    rintro _ _ ⟨r, kept, -⟩
    cases kept
  have creation : empty.External live := .created rfl rfl rfl
  have begun : Reachable Selector.equalityReader ⟨live, some Ingress.oneHost.pass.run⟩ :=
    (start.step (.others creation)).step (.begun rfl)
  have securing : Effect (Ingress.oneHost.setFinalizers "apps" [Ingress.finalizer]) live secured :=
    .patched rfl (Ingress.patched?_finalizerPatch _ _) rfl rfl
  have key : Ingress.oneHostRoute.key =
      (some "edge", some (Route.nameFor "1" "www.example.org")) := rfl
  obtain ⟨applied, kept⟩ := oneHostCluster_routes (some (some [Ingress.finalizer])) key
  have applying : Effect (Ingress.applyRoute Ingress.oneHostRoute) secured served :=
    .applied applied rfl
  rw [first] at begun
  have second_request := begun.step (.changed (.done securing))
  rw [second] at second_request
  have reached := second_request.step (.changed (.done applying))
  have own : Ingress.oneHostRoute.owner? = some Ingress.oneHostOwner :=
    Ingress.owner?_oneHostRoute
  exact ⟨_, reached, ⟨_, _, _, kept, own⟩, ingress_held_of_route reached ⟨_, kept, own⟩⟩

end World

end ServingOperator
