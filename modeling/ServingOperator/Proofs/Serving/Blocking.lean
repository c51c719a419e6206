import ServingOperator.Proofs.Serving.Gates

namespace ServingOperator

/-- A reason of a gate stands on a failure only, and there under readiness or under the type of the
    gate that gives it. -/
def Condition.InOwnPlace (c : Condition) : Prop :=
  c.isFromGate = true → c.status = "False" ∧
    (c.type = Condition.ready ∨ c.type = Condition.dependenciesInstalled ∨
      c.type = Condition.installSucceeded ∧ c.reason = some NamespaceCheck.reason)

theorem VersionError.reason_fromGate (e : VersionError) :
    gateReasons.contains e.reason = true := by
  cases e with
  | unparsable raw => exact (by decide : gateReasons.contains "VersionUnparsable" = true)
  | tooLow actual minimum => exact (by decide : gateReasons.contains "VersionTooLow" = true)

theorem NamespaceCheck.reason_fromGate : gateReasons.contains NamespaceCheck.reason = true := by
  decide

theorem Condition.isFromGate_eq {c : Condition} {f : Condition.Finding} (h : c.States f) :
    c.isFromGate = f.reason.any gateReasons.contains := by
  rw [isFromGate, h.reason]

namespace ServingStatus

structure GatesOwn (s : ServingStatus) : Prop where
  distinct : s.DistinctTypes
  inPlace : ∀ c ∈ s.conditions, c.InOwnPlace

theorem GatesOwn.empty : GatesOwn {} :=
  ⟨List.nodup_nil, fun _ member => absurd member List.not_mem_nil⟩

theorem GatesOwn.setCondition {s : ServingStatus} (h : s.GatesOwn) {type : String}
    {f : Condition.Finding} (new : ∀ c : Condition, c.type = type → c.States f → c.InOwnPlace)
    (now : Instant) : (s.setCondition type f now).GatesOwn := by
  refine ⟨distinctTypes_setCondition h.distinct type f now, ?_⟩
  intro c member
  rcases Condition.mem_record member with ⟨ofType, stated⟩ | member
  · exact new c ofType stated
  · exact h.inPlace c member

theorem GatesOwn.setForeign {s : ServingStatus} (h : s.GatesOwn) (type : String)
    {f : Condition.Finding} (foreign : f.reason.any gateReasons.contains = false) (now : Instant) :
    (s.setCondition type f now).GatesOwn := by
  apply h.setCondition
  intro c _ stated fromGate
  rw [Condition.isFromGate_eq stated, foreign] at fromGate
  cases fromGate

theorem GatesOwn.removeCondition {s : ServingStatus} (h : s.GatesOwn) (type : String) :
    (s.removeCondition type).GatesOwn :=
  ⟨distinctTypes_removeCondition h.distinct type,
    fun c member => h.inPlace c (List.mem_filter.mp member).1⟩

theorem GatesOwn.markFailed {s : ServingStatus} (h : s.GatesOwn) {type reason : String}
    (own : type = Condition.dependenciesInstalled ∨
      type = Condition.installSucceeded ∧ reason = NamespaceCheck.reason)
    (message : String) (now : Instant) : (s.markFailed type reason message now).GatesOwn := by
  refine (h.setCondition ?_ now).setCondition ?_ now
  · rintro c ofType ⟨status, given, -⟩ -
    refine ⟨status, .inr ?_⟩
    rcases own with own | ⟨own, same⟩
    · exact .inl (ofType.trans own)
    · exact .inr ⟨ofType.trans own, given.trans (congrArg some same)⟩
  · intro c ofType stated _
    exact ⟨stated.status, .inl ofType⟩

theorem GatesOwn.recordVersion {s : ServingStatus} (h : s.GatesOwn)
    (version : Except VersionError Unit) (now : Instant) :
    (s.recordVersion version now).GatesOwn := by
  cases version with
  | error e => exact h.markFailed (.inl rfl) e.message now
  | ok u =>
    dsimp only [ServingStatus.recordVersion]
    split
    · exact h.setForeign Condition.dependenciesInstalled rfl now
    · exact h

theorem GatesOwn.record {s : ServingStatus} (h : s.GatesOwn) (check : NamespaceCheck)
    (now : Instant) : (check.record s now).GatesOwn := by
  unfold NamespaceCheck.record
  cases check.message? with
  | some message => exact h.markFailed (.inr ⟨rfl, rfl⟩) message now
  | none =>
    dsimp only
    split
    · exact h.removeCondition Condition.installSucceeded
    · exact h

theorem GatesOwn.clearReady {s : ServingStatus} (h : s.GatesOwn) : s.clearReady.GatesOwn := by
  unfold ServingStatus.clearReady
  split
  · exact h.removeCondition Condition.ready
  · exact h

theorem GatesOwn.resolve {s : ServingStatus} (h : s.GatesOwn) (version : Except VersionError Unit)
    (check : NamespaceCheck) (generation : Option Int64) (now : Instant) :
    (s.resolve version check generation now).GatesOwn := by
  have gates := (h.recordVersion version now).record check now
  have cleared := gates.clearReady
  unfold ServingStatus.resolve
  dsimp only
  split
  · exact ⟨cleared.distinct, cleared.inPlace⟩
  · exact ⟨gates.distinct, gates.inPlace⟩

theorem any_isGateFailure_of_states {s : ServingStatus} {type : String} {f : Condition.Finding}
    (h : s.States type f) (status : f.status = "False")
    (fromGate : f.reason.any gateReasons.contains = true) :
    s.conditions.any (·.isGateFailure) = true := by
  obtain ⟨c, found, stated⟩ := h
  refine List.any_eq_true.mpr ⟨c, List.mem_of_find?_eq_some found, ?_⟩
  simp [Condition.isGateFailure, Condition.isFromGate_eq stated, stated.status, status, fromGate]

theorem Settled.not_fromGate {s : ServingStatus} (h : s.Settled (.ok ()) .allowed)
    (own : s.GatesOwn) {c : Condition} (member : c ∈ s.conditions) : c.isFromGate = false := by
  obtain ⟨dependencies, install, readiness⟩ := h
  have found := condition?_of_mem own.distinct member
  cases fromGate : c.isFromGate with
  | false => rfl
  | true =>
    obtain ⟨failed, isReady | isDependencies | ⟨isInstall, reason⟩⟩ := own.inPlace c member fromGate
    · rw [isReady] at found
      simp [ReadinessSettled, NamespaceCheck.message?, found, fromGate] at readiness
    · rw [isDependencies] at found
      simp [VersionSettled, found, Condition.isGateFailure, failed, fromGate] at dependencies
    · rw [isInstall] at found
      simp [NamespaceSettled, NamespaceCheck.message?, found, reason] at install

theorem Settled.any_isGateFailure_of_failed {s : ServingStatus} {version : Except VersionError Unit}
    {check : NamespaceCheck} (h : s.Settled version check)
    (failed : (∃ e, version = .error e) ∨ ∃ required, check = .mismatch required) :
    s.conditions.any (·.isGateFailure) = true := by
  rcases failed with ⟨e, rfl⟩ | ⟨required, rfl⟩
  · exact any_isGateFailure_of_states h.dependencies rfl e.reason_fromGate
  · exact any_isGateFailure_of_states (s := s) h.install rfl NamespaceCheck.reason_fromGate

theorem Settled.any_isGateFailure {s : ServingStatus} {version : Except VersionError Unit}
    {check : NamespaceCheck} (h : s.Settled version check) (own : s.GatesOwn) :
    s.conditions.any (·.isGateFailure) = true ↔
      (∃ e, version = .error e) ∨ ∃ required, check = .mismatch required := by
  refine ⟨fun failure => ?_, h.any_isGateFailure_of_failed⟩
  cases version with
  | error e => exact .inl ⟨e, rfl⟩
  | ok u =>
    cases check with
    | mismatch required => exact .inr ⟨required, rfl⟩
    | allowed =>
      obtain ⟨c, member, failed⟩ := List.any_eq_true.mp failure
      simp [Condition.isGateFailure, h.not_fromGate own member] at failed

theorem Settled.readiness_false {s : ServingStatus} {version : Except VersionError Unit}
    {check : NamespaceCheck} (h : s.Settled version check)
    (failed : (∃ e, version = .error e) ∨ ∃ required, check = .mismatch required) :
    ∃ c, s.condition? Condition.ready = some c ∧ c.status = "False" := by
  have readiness := h.readiness
  cases check with
  | mismatch required =>
    obtain ⟨c, found, stated⟩ := readiness
    exact ⟨c, found, stated.status⟩
  | allowed =>
    cases version with
    | error e =>
      obtain ⟨c, found, stated⟩ := readiness
      exact ⟨c, found, stated.status⟩
    | ok u => simp at failed

end ServingStatus

inductive StatusEvent where
  | pass (metadata : ObjectMeta) (spec : ServingSpec) (facts : Facts) (config : OperatorConfig)
      (now : Instant)
  | write (type : String) (f : Condition.Finding)
      (foreign : f.reason.any gateReasons.contains = false) (now : Instant)
  | remove (type : String)

namespace StatusEvent

def apply (stored : Option ServingStatus) : StatusEvent → Option ServingStatus
  | pass metadata spec facts config now =>
    some (KnativeServing.resolve ⟨metadata, spec, stored⟩ facts config now).status
  | write type f _ now => some ((stored.getD {}).setCondition type f now)
  | remove type => some ((stored.getD {}).removeCondition type)

def stored (history : List StatusEvent) : Option ServingStatus := history.foldl apply none

theorem gatesOwn_apply {stored : Option ServingStatus} (h : (stored.getD {}).GatesOwn)
    (event : StatusEvent) : ((apply stored event).getD {}).GatesOwn := by
  cases event with
  | pass metadata spec facts config now => exact h.resolve _ _ _ _
  | write type f foreign now => exact h.setForeign type foreign now
  | remove type => exact h.removeCondition type

theorem gatesOwn_stored (history : List StatusEvent) : ((stored history).getD {}).GatesOwn := by
  have run : ∀ start : Option ServingStatus, (start.getD {}).GatesOwn →
      ((history.foldl apply start).getD {}).GatesOwn := by
    induction history with
    | nil => exact fun _ h => h
    | cons event history ih => exact fun start h => ih _ (gatesOwn_apply h event)
  exact run none .empty

end StatusEvent

/-- After any history a pass is blocked exactly if one of its own gates failed, and a blocked
    installation is not ready. -/
theorem KnativeServing.isBlocked_iff_gate_failed (history : List StatusEvent)
    (metadata : ObjectMeta) (spec : ServingSpec) (facts : Facts) (config : OperatorConfig)
    (now : Instant) :
    let r := KnativeServing.resolve ⟨metadata, spec, StatusEvent.stored history⟩ facts config now
    (r.isBlocked = true ↔
      (∃ e, Version.checkMinimum facts.version config.minimumVersion = .error e) ∨
        ∃ required, NamespaceCheck.of metadata.inNamespace config.requiredNamespace =
          .mismatch required) ∧
      (r.isBlocked = true →
        ∃ c, r.status.condition? Condition.ready = some c ∧ c.status = "False") := by
  intro r
  have own := StatusEvent.gatesOwn_apply (StatusEvent.gatesOwn_stored history)
    (.pass metadata spec facts config now)
  have settled := ServingStatus.settled_resolve ((StatusEvent.stored history).getD {})
    (Version.checkMinimum facts.version config.minimumVersion)
    (NamespaceCheck.of metadata.inNamespace config.requiredNamespace) metadata.generation now
  have blocked := settled.any_isGateFailure own
  exact ⟨blocked, fun h => settled.readiness_false (blocked.mp h)⟩

end ServingOperator
