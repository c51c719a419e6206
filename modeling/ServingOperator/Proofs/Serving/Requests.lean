import ServingOperator.Proofs.Metrics.Recording
import ServingOperator.Proofs.Pass.Agenda
import ServingOperator.Proofs.Serving.Blocking
import ServingOperator.Proofs.Serving.PartialPass

namespace ServingOperator

namespace FactAnswers

/-- The answers give some facts. The domain and the logging host may not exist, the version has
    to. -/
structure Tell (a : FactAnswers) (facts : Facts) : Prop where
  version : ∃ j, a.version = .ok j ∧ readVersion? j = some facts.version
  domain : a.clusterIngress = .error (.status 404) ∧ facts.domain = none ∨
    ∃ j, a.clusterIngress = .ok j ∧ readDomain? j = some facts.domain
  loggingHost : a.loggingRoute = .error (.status 404) ∧ facts.loggingHost = none ∨
    ∃ j, a.loggingRoute = .ok j ∧ readHost? j = some facts.loggingHost

variable {α : Type} {answer : Except ApiFailure Json}

theorem reading_eq_ok_iff {read : Json → Option α} {a : α} :
    reading read answer = .ok a ↔ ∃ j, answer = .ok j ∧ read j = some a := by
  cases answer with
  | error failure => simp [reading, Except.bind]
  | ok j =>
    cases found : read j with
    | none => simp [reading, Except.bind, found]
    | some b => simp [reading, Except.bind, found]

theorem readingOptional_eq_ok_iff {read : Json → Option (Option α)} {a : Option α} :
    readingOptional read answer = .ok a ↔
      answer = .error (.status 404) ∧ a = none ∨ ∃ j, answer = .ok j ∧ read j = some a := by
  by_cases absent : answer = .error (.status 404)
  · subst absent
    simp [readingOptional, eq_comm]
  · have read_eq : readingOptional read answer = reading read answer := by
      unfold readingOptional
      split
      · exact absurd rfl absent
      · rfl
    rw [read_eq, reading_eq_ok_iff]
    simp [absent]

theorem gather_eq_ok_iff {a : FactAnswers} {facts : Facts} :
    a.gather = .ok facts ↔ a.Tell facts := by
  have parts : a.gather = .ok facts ↔ a.versionText = .ok facts.version ∧
      a.domain = .ok facts.domain ∧ a.loggingHost = .ok facts.loggingHost := by
    obtain ⟨version, domain, loggingHost⟩ := facts
    unfold gather
    rcases a.versionText with _ | version <;> rcases a.domain with _ | domain <;>
      rcases a.loggingHost with _ | loggingHost <;>
      simp [bind, Except.bind, pure, Except.pure]
  rw [parts]
  constructor
  · rintro ⟨version, domain, loggingHost⟩
    exact ⟨reading_eq_ok_iff.mp version, readingOptional_eq_ok_iff.mp domain,
      readingOptional_eq_ok_iff.mp loggingHost⟩
  · rintro ⟨version, domain, loggingHost⟩
    exact ⟨reading_eq_ok_iff.mpr version, readingOptional_eq_ok_iff.mpr domain,
      readingOptional_eq_ok_iff.mpr loggingHost⟩

theorem Tell.unique {a : FactAnswers} {facts facts' : Facts} (h : a.Tell facts)
    (h' : a.Tell facts') : facts = facts' :=
  Except.ok.inj ((gather_eq_ok_iff.mpr h).symm.trans (gather_eq_ok_iff.mpr h'))

end FactAnswers

namespace KnativeServing

variable {σ : Type} {server : ApiServer σ}

def specAsk (serving : KnativeServing) (inNamespace : String) (spec : ServingSpec) : Ask :=
  .change (.merge (.serving inNamespace serving.metadata.nameAny)
    (.obj [("spec", ServingSpec.format.encode spec)]))

def statusAsk (serving : KnativeServing) (inNamespace : String) (status : ServingStatus) : Ask :=
  .change (.merge (.servingStatus inNamespace serving.metadata.nameAny) (.obj [("status", .obj [
    ("version", (status.version.map Json.str).getD .null),
    ("observedGeneration", (status.observedGeneration.map fun n => .int n.toInt).getD .null),
    ("conditions", .arr (status.conditions.map Condition.format.encode))])]))

def labelAsk (inNamespace label : String) : Ask :=
  .change (.merge (.installNamespace inNamespace) (.obj [("metadata", .obj [("labels",
    .obj [("serving.knative.openshift.io/enable-monitoring", .str label)])])]))

def agenda (serving : KnativeServing) (inNamespace : String) (r : Resolution) : List Ask :=
  (if r.spec = serving.spec then [] else [serving.specAsk inNamespace r.spec]) ++
    (if serving.status = some r.status then [] else [serving.statusAsk inNamespace r.status]) ++
    (if r.isBlocked then [] else [labelAsk inNamespace r.monitoring.label])

def GateFails (serving : KnativeServing) (facts : Facts) (config : OperatorConfig) : Prop :=
  (∃ e, Version.checkMinimum facts.version config.minimumVersion = .error e) ∨
    ∃ required, NamespaceCheck.of serving.metadata.inNamespace config.requiredNamespace =
      .mismatch required

theorem statusPatch_eq (status : ServingStatus) :
    statusPatch status = .obj [("status", .obj [
      ("version", (status.version.map Json.str).getD .null),
      ("observedGeneration", (status.observedGeneration.map fun n => .int n.toInt).getD .null),
      ("conditions", .arr (status.conditions.map Condition.format.encode))])] := by
  unfold statusPatch
  cases status.version <;> cases status.observedGeneration <;> rfl

theorem requests_map_change (serving : KnativeServing) (inNamespace : String) (r : Resolution) :
    (serving.requests inNamespace r).map .change = serving.agenda inNamespace r := by
  unfold requests writes labelWrites agenda statusAsk
  rw [List.map_append, List.map_append, statusPatch_eq]
  congr 1
  · congr 1
    · split <;> rfl
    · split <;> rfl
  · split <;> rfl

theorem merge_of_mem_requests {serving : KnativeServing} {inNamespace : String} {r : Resolution}
    {c : Change} (h : c ∈ serving.requests inNamespace r) :
    ∃ target patch, c = .merge target patch := by
  rcases mem_requests.mp h with spec | status | label
  · exact ⟨_, _, (mem_specWrites.mp spec).2⟩
  · exact ⟨_, _, (mem_statusWrites.mp status).2⟩
  · exact ⟨_, _, (mem_labelWrites.mp label).2⟩

theorem carryOut_follows (server : ApiServer σ) (serving : KnativeServing) (inNamespace : String)
    (r : Resolution) (s : σ) :
    (serving.carryOut inNamespace r).Follows server (serving.agenda inNamespace r)
      ⟨nextLook r, [.succeeded Metrics.servingController]⟩ s := by
  have each : ∀ c ∈ serving.requests inNamespace r, ∀ s,
      (Attempt.change c).Follows server [.change c] () s := by
    intro c member s
    obtain ⟨target, patch, rfl⟩ := merge_of_mem_requests member
    exact .change (Exchange.merge_refused target patch) s
  have ended := (Attempt.Follows.forM each s).bind (f := fun _ =>
    pure (⟨nextLook r, [.succeeded Metrics.servingController]⟩ : Conclusion)) (.pure _ _)
  rwa [List.append_nil, requests_map_change, ← carryOut_eq] at ended

theorem isBlocked_of_gateFails {serving : KnativeServing} {facts : Facts} {config : OperatorConfig}
    (failed : serving.GateFails facts config) (now : Instant) :
    (serving.resolve facts config now).isBlocked = true :=
  (ServingStatus.settled_resolve (serving.status.getD {}) _ _ _ now).any_isGateFailure_of_failed
    failed

theorem installNamespace_not_mem_agenda {serving : KnativeServing} {inNamespace : String}
    {r : Resolution} (blocked : r.isBlocked = true) {name : String} {patch : Json} :
    .change (.merge (.installNamespace name) patch) ∉ serving.agenda inNamespace r := by
  intro h
  rw [← requests_map_change] at h
  obtain ⟨c, requested, same⟩ := List.mem_map.mp h
  obtain rfl := Ask.change.inj same
  rcases mem_requests.mp requested with spec | status | label
  · cases (mem_specWrites.mp spec).2
  · cases (mem_statusWrites.mp status).2
  · exact absurd blocked (Bool.eq_false_iff.mp (mem_labelWrites.mp label).1)

section

variable {serving : KnativeServing} {s : σ}

theorem pass_of_no_namespace {config : OperatorConfig} {now : Instant}
    (lost : serving.metadata.inNamespace = none) :
    serving.pass config now = throw (.missingNamespace "KnativeServing") := by
  unfold pass
  rw [lost]
  rfl

variable {inNamespace : String} (lives : serving.metadata.inNamespace = some inNamespace)
  (config : OperatorConfig) (now : Instant)

include lives

theorem pass_of_untold (untold : ∀ facts, ¬(server.facts s).Tell facts) :
    (serving.pass config now).run.trace server s = [.facts (server.facts s)] ∧
      ∃ failure, ((serving.pass config now).run.run server s).1 = .error (.facts failure) := by
  rw [pass_of_namespace lives]
  cases gathered : (server.facts s).gather with
  | error failure =>
    rw [Attempt.trace_facts_of_error gathered, Attempt.run_facts_of_error gathered]
    exact ⟨rfl, failure, rfl⟩
  | ok facts => exact absurd (FactAnswers.gather_eq_ok_iff.mp gathered) (untold facts)

theorem pass_of_told {facts : Facts} (told : (server.facts s).Tell facts) :
    let r := serving.resolve facts config now
    (serving.pass config now).run.trace server s =
        .facts (server.facts s) :: (serving.carryOut inNamespace r).run.trace server s ∧
      (serving.pass config now).run.run server s =
        (serving.carryOut inNamespace r).run.run server s := by
  intro r
  have known := FactAnswers.gather_eq_ok_iff.mpr told
  rw [pass_of_namespace lives, Attempt.trace_facts known, Attempt.run_facts known]
  exact ⟨rfl, rfl⟩

end

def metricsAfter (result : Except PassError Conclusion) (seconds : Double) (m : Metrics) :
    Metrics :=
  (Attempt.settle Metrics.servingController result).events.foldl
    (fun m event => m.record seconds event) m

/-- After a pass with this result, so many more successes are shown than before. -/
def AddsSuccesses (result : Except PassError Conclusion) (n : Nat) : Prop :=
  ∀ (m : Metrics) (seconds : Double), m.Reported →
    (metricsAfter result seconds m).passCount ⟨"knativeserving", "success"⟩ =
      m.passCount ⟨"knativeserving", "success"⟩ + n

theorem addsSuccesses_of_ok (action : Action) :
    AddsSuccesses (.ok ⟨action, [.succeeded Metrics.servingController]⟩) 1 := by
  intro m seconds reported
  have own : ∀ event ∈ [MetricEvent.succeeded Metrics.servingController], event.IsOwn := by
    simp [MetricEvent.IsOwn, MetricEvent.counted?, Metrics.servingController, PassLabels.own]
  exact reported.passCount_foldl seconds own _

theorem addsSuccesses_of_error (e : PassError) : AddsSuccesses (.error e) 0 := by
  intro m seconds reported
  have own : ∀ event ∈ [MetricEvent.failed Metrics.servingController], event.IsOwn := by
    simp [MetricEvent.IsOwn, MetricEvent.counted?, Metrics.servingController, PassLabels.own]
  exact reported.passCount_foldl seconds own _

theorem addsSuccesses_of_follows {serving : KnativeServing} {inNamespace : String}
    {r : Resolution} {xs : List Exchange} {result : Except PassError Conclusion}
    (follows : Follows ⟨nextLook r, [.succeeded Metrics.servingController]⟩
      (serving.agenda inNamespace r) xs result) :
    ((∀ x ∈ xs, x.Granted) → AddsSuccesses result 1) ∧
      ((∃ x ∈ xs, ¬x.Granted) → AddsSuccesses result 0) := by
  constructor
  · intro granted
    rw [follows.ok_of_granted granted]
    exact addsSuccesses_of_ok _
  · rintro ⟨x, member, refused⟩
    obtain ⟨e, rfl⟩ := follows.error_of_refused member refused
    exact addsSuccesses_of_error e

theorem follows_of_blocked {serving : KnativeServing} {inNamespace : String} {r : Resolution}
    {conclusion : Conclusion} {xs : List Exchange} {result : Except PassError Conclusion}
    (follows : Follows conclusion (serving.agenda inNamespace r) xs result)
    (blocked : r.isBlocked = true) :
    (∀ name patch answer, .change (.merge (.installNamespace name) patch) answer ∉ xs) ∧
      (r.spec ≠ serving.spec → ∃ x rest, xs = x :: rest ∧
        x.Meets (serving.specAsk inNamespace r.spec)) := by
  constructor
  · intro name patch answer sent
    exact installNamespace_not_mem_agenda blocked (follows.change_mem_agenda sent)
  · intro changed
    rw [agenda, if_neg changed] at follows
    exact follows.head

/-- What a pass asks for, and whether it is counted as a success. It holds of any pass in any state,
    and so of every pass of a run. -/
theorem pass_goes_through_agenda (serving : KnativeServing) (config : OperatorConfig)
    (now : Instant) (server : ApiServer σ) (s : σ) :
    let trace := (serving.pass config now).run.trace server s
    let result := ((serving.pass config now).run.run server s).1
    match serving.metadata.inNamespace with
    | none => trace = [] ∧ result = .error (.missingNamespace "KnativeServing") ∧
        AddsSuccesses result 0
    | some inNamespace => ∃ xs, trace = .facts (server.facts s) :: xs ∧
      ((∀ facts, ¬(server.facts s).Tell facts) →
        xs = [] ∧ (∃ failure, result = .error (.facts failure)) ∧ AddsSuccesses result 0) ∧
      ∀ facts, (server.facts s).Tell facts →
        let r := serving.resolve facts config now
        Follows ⟨nextLook r, [.succeeded Metrics.servingController]⟩
          (serving.agenda inNamespace r) xs result ∧
        ((∀ x ∈ xs, x.Granted) → AddsSuccesses result 1) ∧
        ((∃ x ∈ xs, ¬x.Granted) → AddsSuccesses result 0) ∧
        (serving.GateFails facts config →
          (∀ name patch answer, .change (.merge (.installNamespace name) patch) answer ∉ xs) ∧
          (r.spec ≠ serving.spec → ∃ x rest, xs = x :: rest ∧
            x.Meets (serving.specAsk inNamespace r.spec))) := by
  intro trace result
  cases lives : serving.metadata.inNamespace with
  | none =>
    have pass : serving.pass config now = throw (.missingNamespace "KnativeServing") :=
      pass_of_no_namespace lives
    have ended : result = .error (.missingNamespace "KnativeServing") := by
      simp only [result, pass]
      rfl
    refine ⟨by simp only [trace, pass]; rfl, ended, ?_⟩
    rw [ended]
    exact addsSuccesses_of_error _
  | some inNamespace =>
    by_cases knowledge : ∃ facts, (server.facts s).Tell facts
    · obtain ⟨known, told⟩ := knowledge
      obtain ⟨traced, ran⟩ := pass_of_told lives config now told
      refine ⟨_, traced, fun untold => absurd told (untold known), fun facts told' => ?_⟩
      obtain rfl := told.unique told'
      intro r
      have follows := carryOut_follows server serving inNamespace r s
      have ended : result = _ := congrArg Prod.fst ran
      rw [ended]
      obtain ⟨success, failure⟩ := addsSuccesses_of_follows follows
      exact ⟨follows, success, failure,
        fun failed => follows_of_blocked follows (isBlocked_of_gateFails failed now)⟩
    · have untold := not_exists.mp knowledge
      obtain ⟨traced, failure, ended⟩ := pass_of_untold lives config now untold
      refine ⟨[], traced, fun _ => ⟨rfl, ⟨failure, ended⟩, ?_⟩, fun facts told => ?_⟩
      · rw [show result = .error (.facts failure) from ended]
        exact addsSuccesses_of_error _
      · exact absurd told (untold facts)

end KnativeServing

end ServingOperator
