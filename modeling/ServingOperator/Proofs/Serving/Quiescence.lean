import ServingOperator.Proofs.Pass.Trace
import ServingOperator.Proofs.Serving.SpecPatch
import ServingOperator.Proofs.Serving.SpecResolution

namespace ServingOperator

/-- A server that keeps the document of an installation, and merges into it what it grants. The
    label of the namespace is kept elsewhere. -/
structure ApiServer.KeepsInstallation {σ : Type} (server : ApiServer σ) (document : σ → Json)
    (inNamespace name : String) : Prop where
  merged {patch : Json} {s s' : σ} :
    server.change (.merge (.serving inNamespace name) patch) s = (.ok (), s') →
      document s' = patch.mergeInto (document s)
  mergedStatus {patch : Json} {s s' : σ} :
    server.change (.merge (.servingStatus inNamespace name) patch) s = (.ok (), s') →
      document s' = patch.mergeInto (document s)
  labelled {patch : Json} {s s' : σ} :
    server.change (.merge (.installNamespace inNamespace) patch) s = (.ok (), s') →
      document s' = document s

def Exchange.WritesBack : Exchange → Prop
  | change (.merge (.serving _ _) _) _ | change (.merge (.servingStatus _ _) _) _ => True
  | _ => False

theorem MonitoringDecision.label_eq {a b : MonitoringDecision} (same : a.enabled = b.enabled) :
    a.label = b.label := by
  unfold label
  rw [same]

namespace ServingSpec

theorem resolve_withFallback (spec : ServingSpec) {images : StringMap String} {image : String}
    (own : images.get? Registry.fallbackComponent = some image) (fallback : String)
    (domain host : Option String) (switch : Option Bool) :
    (spec.withFallback fallback).resolve images domain host switch =
      spec.resolve images domain host switch := by
  have registry : (spec.withFallback fallback).registry.overrideWith images =
      spec.registry.overrideWith images := by
    unfold Registry.overrideWith
    rw [own]
    rfl
  rw [resolve_eq, resolve_eq, registry]
  rfl

end ServingSpec

namespace KnativeServing

/-- The operator has an empty fallback image for an installation that stores another one. -/
def ClearsFallback (config : OperatorConfig) (document : Json) : Prop :=
  config.images.get? Registry.fallbackComponent = some "" ∧
    Registry.fallbackIn (registryIn document) ≠ ""

def writtenBack (document : Json) (serving : KnativeServing) (r : Resolution) : KnativeServing :=
  { serving with spec := storedSpec document r.spec, status := some r.status }

section

variable {document : Json} {serving : KnativeServing} (facts : Facts) (config : OperatorConfig)
  (now later : Instant)

theorem storedSpec_resolve_eq_iff (stored : serving.IsStoredIn document) :
    storedSpec document (serving.resolve facts config now).spec =
        (serving.resolve facts config now).spec ↔ ¬ClearsFallback config document := by
  have fallback : (serving.resolve facts config now).spec.registry.fallback =
      (config.images.get? Registry.fallbackComponent).getD serving.spec.registry.fallback := by
    show (serving.spec.resolve config.images facts.domain facts.loggingHost
      config.monitoring).spec.registry.fallback = _
    rw [ServingSpec.resolve_eq]
    rfl
  rw [storedSpec, ServingSpec.withFallback_eq_iff, Registry.fallbackAfter_eq_iff, fallback]
  refine not_congr (and_congr_left fun given => ?_)
  cases config.images.get? Registry.fallbackComponent with
  | none =>
    rw [Option.getD_none, fallback_of_given stored.read given]
    refine iff_of_false given fun own => ?_
    cases own
  | some image => simp

theorem resolve_writtenBack (stored : serving.IsStoredIn document) :
    let r := serving.resolve facts config now
    let again := (writtenBack document serving r).resolve facts config later
    again.spec = r.spec ∧ again.status = r.status ∧
      again.monitoring.label = r.monitoring.label := by
  intro r again
  have sameSpec : (storedSpec document r.spec).resolve config.images facts.domain
      facts.loggingHost config.monitoring =
      r.spec.resolve config.images facts.domain facts.loggingHost config.monitoring := by
    by_cases clears : ClearsFallback config document
    · exact ServingSpec.resolve_withFallback r.spec clears.1 _ facts.domain facts.loggingHost
        config.monitoring
    · rw [(storedSpec_resolve_eq_iff facts config now stored).mpr clears]
  obtain ⟨settled, -, enabled⟩ := ServingSpec.resolve_resolve serving.spec config.images
    facts.domain facts.loggingHost config.monitoring
  refine ⟨(congrArg ResolvedSpec.spec sameSpec).trans settled,
    ServingStatus.resolve_resolve _ _ _ _ now later, ?_⟩
  exact MonitoringDecision.label_eq
    ((congrArg (·.monitoring.enabled) sameSpec).trans enabled)

end

def carryOut (serving : KnativeServing) (inNamespace : String) (r : Resolution) :
    Attempt Conclusion := do
  (serving.writes inNamespace r).forM Attempt.change
  if !r.isBlocked then
    Attempt.change (.merge (.installNamespace inNamespace) (labelPatch r.monitoring))
  return ⟨nextLook r, [.succeeded Metrics.servingController]⟩

theorem pass_of_namespace {serving : KnativeServing} {inNamespace : String}
    (lives : serving.metadata.inNamespace = some inNamespace) (config : OperatorConfig)
    (now : Instant) :
    serving.pass config now = (do
      let facts ← Attempt.facts
      serving.carryOut inNamespace (serving.resolve facts config now)) := by
  unfold pass
  rw [lives]
  rfl

section

variable {σ : Type} {server : ApiServer σ} {document : σ → Json} {inNamespace : String}

theorem merge_ensures {target : Target} {patch : Json} {s : σ} {post : σ → Prop}
    (granted : ∀ s', server.change (.merge target patch) s = (.ok (), s') → post s') :
    (Attempt.change (.merge target patch)).Ensures (granting server) (fun _ => True) False
      (fun _ => post) s := by
  apply Attempt.Ensures.change
  rintro s' rfl answer s'' ⟨answered, given⟩
  obtain rfl : answer = .ok () := given
  exact ⟨trivial, fun _ => granted s'' answered, fun refused => refused rfl⟩

theorem writeSpec_ensures {serving : KnativeServing} {s : σ}
    (stored : serving.IsStoredIn (document s))
    (keeps : server.KeepsInstallation document inNamespace serving.metadata.nameAny)
    (facts : Facts) (config : OperatorConfig) (now : Instant) :
    let r := serving.resolve facts config now
    Attempt.Ensures (granting server) (fun _ => True) False
      (fun _ s' => IsStoredIn { serving with spec := storedSpec (document s) r.spec }
        (document s'))
      ((if r.spec = serving.spec then [] else
        [Change.merge (.serving inNamespace serving.metadata.nameAny) (specPatch r.spec)]).forM
          Attempt.change) s := by
  intro r
  by_cases same : r.spec = serving.spec
  · rw [if_pos same, same, stored.storedSpec_self]
    exact Attempt.Ensures.pure stored
  · rw [if_neg same]
    apply Attempt.Ensures.bind
    refine merge_ensures fun s' answered => Attempt.Ensures.pure ?_
    rw [keeps.merged answered]
    exact stored.specPatch config.images facts.domain facts.loggingHost config.monitoring

theorem writeStatus_ensures {serving : KnativeServing} {s : σ}
    (stored : serving.IsStoredIn (document s))
    (keeps : server.KeepsInstallation document inNamespace serving.metadata.nameAny)
    (status : ServingStatus) :
    Attempt.Ensures (granting server) (fun _ => True) False
      (fun _ s' => IsStoredIn { serving with status := some status } (document s'))
      ((if serving.status = some status then [] else
        [Change.merge (.servingStatus inNamespace serving.metadata.nameAny)
          (statusPatch status)]).forM Attempt.change) s := by
  by_cases same : serving.status = some status
  · rw [if_pos same, ← same]
    exact Attempt.Ensures.pure stored
  · rw [if_neg same]
    apply Attempt.Ensures.bind
    refine merge_ensures fun s' answered => Attempt.Ensures.pure ?_
    rw [keeps.mergedStatus answered]
    exact stored.statusPatch status

theorem pass_ensures {serving : KnativeServing}
    (keeps : server.KeepsInstallation document inNamespace serving.metadata.nameAny) {s : σ}
    (stored : serving.IsStoredIn (document s))
    (lives : serving.metadata.inNamespace = some inNamespace) {facts : Facts}
    (known : (server.facts s).gather = .ok facts) (config : OperatorConfig) (now : Instant) :
    (serving.pass config now).Ensures (granting server) (fun _ => True) False
      (fun _ s' => (writtenBack (document s) serving
        (serving.resolve facts config now)).IsStoredIn (document s')) s := by
  rw [pass_of_namespace lives]
  apply Attempt.Ensures.bind
  apply Attempt.Ensures.facts
  rintro _ rfl _ rfl
  refine ⟨?_, fun e failed => nomatch known.symm.trans failed⟩
  intro facts' known'
  obtain rfl : facts = facts' := Except.ok.inj (known.symm.trans known')
  rw [carryOut, writes, List.forM_eq_forM, List.forM_append, bind_assoc]
  apply Attempt.Ensures.bind
  refine (writeSpec_ensures stored keeps facts config now).mono fun _ s' stored' => ?_
  apply Attempt.Ensures.bind
  have status := writeStatus_ensures stored' keeps (serving.resolve facts config now).status
  refine status.mono fun _ s'' written => ?_
  cases (serving.resolve facts config now).isBlocked with
  | true => exact Attempt.Ensures.pure written
  | false =>
    apply Attempt.Ensures.bind
    refine merge_ensures fun s'' answered => Attempt.Ensures.pure ?_
    rw [keeps.labelled answered]
    exact written

end

section

variable {serving : KnativeServing} {inNamespace : String} {r : Resolution}

theorem writes_eq_nil_iff :
    serving.writes inNamespace r = [] ↔ r.spec = serving.spec ∧ serving.status = some r.status := by
  unfold writes
  by_cases spec : r.spec = serving.spec <;>
    by_cases status : serving.status = some r.status <;> simp [spec, status]

theorem writesBack_of_mem_writes {c : Change} (h : c ∈ serving.writes inNamespace r)
    (answer : Except ApiFailure Unit) : (Exchange.change c answer).WritesBack := by
  rcases List.mem_append.mp h with spec | status
  · split at spec
    · cases spec
    · obtain rfl := List.mem_singleton.mp spec
      trivial
  · split at status
    · cases status
    · obtain rfl := List.mem_singleton.mp status
      trivial

theorem writesBack_iff {τ : Type} {server : ApiServer τ} {s : τ} {facts : Facts}
    (lives : serving.metadata.inNamespace = some inNamespace)
    (known : (server.facts s).gather = .ok facts) (config : OperatorConfig) (now : Instant) :
    (∃ exchange ∈ (serving.pass config now).run.trace server s, exchange.WritesBack) ↔
      serving.writes inNamespace (serving.resolve facts config now) ≠ [] := by
  rw [pass_of_namespace lives, Attempt.trace_facts known, carryOut]
  cases written : serving.writes inNamespace (serving.resolve facts config now) with
  | nil =>
    -- Nothing is left to send but the label of the namespace.
    refine iff_of_false ?_ (fun nonempty => nonempty rfl)
    rintro ⟨exchange, member, writesBack⟩
    rcases List.mem_cons.mp member with rfl | member
    · exact writesBack
    rw [List.forM_eq_forM, List.forM_nil, pure_bind] at member
    cases blocked : (serving.resolve facts config now).isBlocked with
    | true =>
      rw [blocked] at member
      cases member
    | false =>
      rw [blocked] at member
      change exchange ∈ (Attempt.change _ >>= fun _ => (pure _ : Attempt Conclusion)).run.trace
        server s at member
      rw [Attempt.trace_change] at member
      rcases List.mem_cons.mp member with rfl | later
      · exact writesBack
      · split at later <;> cases later
  | cons c cs =>
    -- The first of the writes is sent in any case, whatever is answered to it.
    refine iff_of_true ⟨.change c (server.change c s).1, ?_, ?_⟩ nofun
    · rw [List.forM_eq_forM, List.forM_cons, bind_assoc, Attempt.trace_change]
      exact List.mem_cons_of_mem _ List.mem_cons_self
    · exact writesBack_of_mem_writes (written ▸ List.mem_cons_self) _

end

theorem writesBack_again_iff {document : Json} {serving : KnativeServing} {inNamespace : String}
    (stored : serving.IsStoredIn document)
    (lives : serving.metadata.inNamespace = some inNamespace) {τ : Type} {server : ApiServer τ}
    {s : τ} {facts : Facts} (known : (server.facts s).gather = .ok facts)
    (config : OperatorConfig) (now later : Instant) :
    let again := writtenBack document serving (serving.resolve facts config now)
    (∃ exchange ∈ (again.pass config later).run.trace server s, exchange.WritesBack) ↔
      ClearsFallback config document := by
  intro again
  obtain ⟨spec, status, -⟩ := resolve_writtenBack facts config now later stored
  have lives : again.metadata.inNamespace = some inNamespace := lives
  rw [writesBack_iff lives known, ← not_iff_not, not_not, writes_eq_nil_iff, spec, status,
    ← storedSpec_resolve_eq_iff facts config now stored]
  exact ⟨fun settled => settled.1.symm, fun settled => ⟨settled.symm, rfl⟩⟩

/-- After a pass whose requests are all granted the document says what the pass decided, and passes
    over it write nothing back, unless an empty fallback image is given where another is stored. -/
theorem pass_settles_iff {σ : Type} {server : ApiServer σ} {document : σ → Json}
    {serving : KnativeServing} {inNamespace : String}
    (keeps : server.KeepsInstallation document inNamespace serving.metadata.nameAny) {s : σ}
    (stored : serving.IsStoredIn (document s))
    (lives : serving.metadata.inNamespace = some inNamespace) {facts : Facts}
    (known : (server.facts s).gather = .ok facts) (config : OperatorConfig) (now : Instant)
    (granted : ∀ exchange ∈ (serving.pass config now).run.trace server s, exchange.Granted) :
    let r := serving.resolve facts config now
    let after := ((serving.pass config now).run.run server s).2
    ∃ again : KnativeServing, again.IsStoredIn (document after) ∧
      again.metadata = serving.metadata ∧ again.status = some r.status ∧
      (again.spec = r.spec ↔ ¬ClearsFallback config (document s)) ∧
      ∀ {τ : Type} (server' : ApiServer τ) (s' : τ) (later : Instant),
        (server'.facts s').gather = .ok facts →
        ((∃ exchange ∈ (again.pass config later).run.trace server' s', exchange.WritesBack) ↔
          ClearsFallback config (document s)) := by
  intro r after
  obtain ⟨-, -, written⟩ := (pass_ensures keeps stored lives known config now).run granted
  refine ⟨_, written, rfl, rfl, storedSpec_resolve_eq_iff facts config now stored, ?_⟩
  exact fun server' s' later known' => writesBack_again_iff stored lives known' config now later

end KnativeServing

def ApiServer.ofInstallation (answers : FactAnswers) (inNamespace name : String) :
    ApiServer Json where
  facts _ := answers
  change c document := (.ok (), match c with
    | .merge target patch =>
      if target = .serving inNamespace name ∨ target = .servingStatus inNamespace name then
        patch.mergeInto document
      else document
    | _ => document)
  routesOf _ document := (.ok [], document)

namespace ApiServer.ofInstallation

variable (answers : FactAnswers) (inNamespace name : String)

theorem keepsInstallation :
    (ofInstallation answers inNamespace name).KeepsInstallation id inNamespace name where
  merged answered := by
    cases answered
    exact if_pos (.inl rfl)
  mergedStatus answered := by
    cases answered
    exact if_pos (.inr rfl)
  labelled answered := by
    cases answered
    have elsewhere : ¬(Target.installNamespace inNamespace = .serving inNamespace name ∨
        Target.installNamespace inNamespace = .servingStatus inNamespace name) := by simp
    dsimp only [id]
    rw [if_neg elsewhere]

theorem grants {α : Type} (p : Pass α) (document : Json) :
    ∀ exchange ∈ p.trace (ofInstallation answers inNamespace name) document, exchange.Granted := by
  refine Pass.granted_trace (fun c document => ?_) (fun owner document => ⟨_, rfl⟩) p document
  cases c with
  | merge target patch => rfl
  | applyRoute inNamespace name route => rfl
  | deleteRoute inNamespace name => exact .inl rfl

end ApiServer.ofInstallation

namespace KnativeServing

def plainAnswers : FactAnswers where
  version := .ok (.obj [("gitVersion", .str "v1.24.0")])
  clusterIngress := .error .notFound
  loggingRoute := .error .notFound

def plainDocument : Json :=
  .obj [
    ("metadata", .obj [
      ("name", .str "knative-serving"),
      ("namespace", .str "knative-serving")]),
    ("spec", .obj [
      ("registry", .obj [("default", .str "example.org/image")]),
      ("extra", .obj [("kept", .bool true)])])]

def plain : KnativeServing where
  metadata := { name := some "knative-serving", inNamespace := some "knative-serving" }
  spec := { registry := { fallback := "example.org/image" } }

theorem plain_isStoredIn : plain.IsStoredIn plainDocument := ⟨⟨_, rfl⟩, rfl⟩

abbrev plainServer : ApiServer Json :=
  .ofInstallation plainAnswers "knative-serving" "knative-serving"

def plainFacts : Facts := { version := "v1.24.0" }

theorem gather_plainAnswers : plainAnswers.gather = .ok plainFacts := by
  rfl

theorem plainServer_keeps :
    plainServer.KeepsInstallation id "knative-serving" "knative-serving" :=
  ApiServer.ofInstallation.keepsInstallation plainAnswers "knative-serving" "knative-serving"

theorem pass_settles_plain :
    let now : Instant := ⟨0, 0⟩
    let later : Instant := ⟨300, 0⟩
    let after := ((plain.pass {} now).run.run plainServer plainDocument).2
    ∃ again : KnativeServing, again.IsStoredIn after ∧
      again.spec = (plain.resolve plainFacts {} now).spec ∧
      ¬∃ exchange ∈ (again.pass {} later).run.trace plainServer after, exchange.WritesBack := by
  intro now later after
  have never : ¬ClearsFallback {} plainDocument := fun clears => nomatch clears.1
  have stored : plain.IsStoredIn (id plainDocument) := plain_isStoredIn
  obtain ⟨again, written, -, -, spec, second⟩ := pass_settles_iff plainServer_keeps stored rfl
    gather_plainAnswers {} now (ApiServer.ofInstallation.grants _ _ _ _ plainDocument)
  refine ⟨again, written, spec.mpr never, fun more => never ?_⟩
  exact (second plainServer after later gather_plainAnswers).mp more

/-- An empty fallback image is decided on and not stored, so that it is sent again. -/
theorem pass_unsettled_emptyFallback :
    let now : Instant := ⟨0, 0⟩
    let later : Instant := ⟨300, 0⟩
    ∃ config, OperatorConfig.ofSettings [("IMAGE_default", "")] = .ok config ∧
      let after := ((plain.pass config now).run.run plainServer plainDocument).2
      ∃ again : KnativeServing, again.IsStoredIn after ∧
        again.spec ≠ (plain.resolve plainFacts config now).spec ∧
        ∃ exchange ∈ (again.pass config later).run.trace plainServer after,
          exchange.WritesBack := by
  intro now later
  let config : OperatorConfig := { images := StringMap.ofList [("default", "")] }
  refine ⟨config, rfl, ?_⟩
  intro after
  have clears : ClearsFallback config plainDocument := ⟨rfl, by decide⟩
  have stored : plain.IsStoredIn (id plainDocument) := plain_isStoredIn
  obtain ⟨-, -, written⟩ := (pass_ensures plainServer_keeps stored rfl gather_plainAnswers config
    now).run (ApiServer.ofInstallation.grants _ _ _ _ plainDocument)
  refine ⟨_, written, ?_, ?_⟩
  · exact fun same => (storedSpec_resolve_eq_iff plainFacts config now stored).mp same clears
  · exact (writesBack_again_iff stored rfl gather_plainAnswers config now later).mpr clears

end KnativeServing

end ServingOperator
