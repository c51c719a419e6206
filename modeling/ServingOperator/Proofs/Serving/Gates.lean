import ServingOperator.Proofs.Serving.Conditions
import ServingOperator.Serving.Resolution

namespace ServingOperator

namespace Condition

theorem ready_ne_install : ready ≠ installSucceeded := by decide
theorem ready_ne_dependencies : ready ≠ dependenciesInstalled := by decide
theorem install_ne_dependencies : installSucceeded ≠ dependenciesInstalled := by decide

def Finding.failure (reason message : String) : Finding := ⟨"False", some reason, some message⟩

end Condition

def VersionError.finding (e : VersionError) : Condition.Finding := .failure e.reason e.message

def NamespaceCheck.finding (message : String) : Condition.Finding :=
  .failure NamespaceCheck.reason message

def VersionSettled (version : Except VersionError Unit) (found : Option Condition) : Prop :=
  match version with
  | .ok () => found.any (·.isGateFailure) = false
  | .error e => ∃ c, found = some c ∧ c.States e.finding

def NamespaceSettled (check : NamespaceCheck) (found : Option Condition) : Prop :=
  match check.message? with
  | none => found.any (·.reason = some NamespaceCheck.reason) = false
  | some message => ∃ c, found = some c ∧ c.States (NamespaceCheck.finding message)

def ReadinessSettled (version : Except VersionError Unit) (check : NamespaceCheck)
    (found : Option Condition) : Prop :=
  match check.message?, version with
  | some message, _ => ∃ c, found = some c ∧ c.States (NamespaceCheck.finding message)
  | none, .error e => ∃ c, found = some c ∧ c.States e.finding
  | none, .ok () => found.any (·.isFromGate) = false

namespace ServingStatus

/-- The conditions say what both gates found. -/
structure Settled (s : ServingStatus) (version : Except VersionError Unit)
    (check : NamespaceCheck) : Prop where
  dependencies : VersionSettled version (s.condition? Condition.dependenciesInstalled)
  install : NamespaceSettled check (s.condition? Condition.installSucceeded)
  readiness : ReadinessSettled version check (s.condition? Condition.ready)

theorem condition?_observe (s : ServingStatus) (generation : Option Int64) (type : String) :
    (s.observe generation).condition? type = s.condition? type := rfl

theorem observe_observe (s : ServingStatus) (generation : Option Int64) :
    (s.observe generation).observe generation = s.observe generation := by
  cases generation <;> rfl

theorem markFailed_states (s : ServingStatus) (type reason message : String) (now : Instant)
    (differ : Condition.ready ≠ type) :
    (s.markFailed type reason message now).States type (.failure reason message) ∧
      (s.markFailed type reason message now).States Condition.ready (.failure reason message) := by
  refine ⟨?_, states_setCondition _ _ _ _⟩
  rw [markFailed, states_setCondition_of_ne differ]
  exact states_setCondition _ _ _ _

theorem condition?_markFailed (s : ServingStatus) {type other : String}
    (reason message : String) (now : Instant) (notType : type ≠ other)
    (notReady : Condition.ready ≠ other) :
    (s.markFailed type reason message now).condition? other = s.condition? other := by
  rw [markFailed, condition?_setCondition, if_neg notReady, condition?_setCondition, if_neg notType]

theorem recordVersion_settles (s : ServingStatus) (version : Except VersionError Unit)
    (now : Instant) :
    VersionSettled version
      ((s.recordVersion version now).condition? Condition.dependenciesInstalled) := by
  cases version with
  | error e => exact (markFailed_states _ _ _ _ _ Condition.ready_ne_dependencies).1
  | ok u =>
    dsimp only [recordVersion, VersionSettled]
    split
    · rw [markDependenciesInstalled, condition?_setCondition, if_pos rfl]
      have status := (Condition.recorded_states Condition.dependenciesInstalled
        { status := "True" } now (s.condition? Condition.dependenciesInstalled)).status
      simp [Condition.isGateFailure, status]
    · rename_i notFailed
      simpa using notFailed

theorem record_settles (check : NamespaceCheck) (s : ServingStatus) (now : Instant) :
    NamespaceSettled check ((check.record s now).condition? Condition.installSucceeded) := by
  unfold NamespaceCheck.record NamespaceSettled
  cases check.message? with
  | some message => exact (markFailed_states _ _ _ _ _ Condition.ready_ne_install).1
  | none =>
    dsimp only
    split
    · rw [condition?_removeCondition, if_pos rfl]
      rfl
    · rename_i notRecorded
      simpa using notRecorded

theorem condition?_record (check : NamespaceCheck) (s : ServingStatus) (now : Instant)
    {type : String} (notOwn : Condition.installSucceeded ≠ type)
    (notReady : check.message? = none ∨ Condition.ready ≠ type) :
    (check.record s now).condition? type = s.condition? type := by
  unfold NamespaceCheck.record
  cases h : check.message? with
  | some message =>
    have notReady : Condition.ready ≠ type := by simpa [h] using notReady
    exact condition?_markFailed _ _ _ _ notOwn notReady
  | none =>
    dsimp only
    split
    · rw [condition?_removeCondition, if_neg notOwn]
    · rfl

theorem clearReady_settles (s : ServingStatus) :
    (s.clearReady.condition? Condition.ready).any (·.isFromGate) = false := by
  unfold clearReady
  split
  · rw [condition?_removeCondition, if_pos rfl]
    rfl
  · rename_i notFromGate
    simpa using notFromGate

theorem condition?_clearReady (s : ServingStatus) {type : String}
    (notReady : Condition.ready ≠ type) : s.clearReady.condition? type = s.condition? type := by
  unfold clearReady
  split
  · rw [condition?_removeCondition, if_neg notReady]
  · rfl

theorem condition?_resolve (s : ServingStatus) (version : Except VersionError Unit)
    (check : NamespaceCheck) (generation : Option Int64) (now : Instant) {type : String}
    (notReady : Condition.ready ≠ type) :
    (s.resolve version check generation now).condition? type =
      (check.record (s.recordVersion version now) now).condition? type := by
  unfold resolve
  rw [condition?_observe]
  split
  · exact condition?_clearReady _ notReady
  · rfl

theorem readiness_resolve (s : ServingStatus) (version : Except VersionError Unit)
    (check : NamespaceCheck) (generation : Option Int64) (now : Instant) :
    ReadinessSettled version check
      ((s.resolve version check generation now).condition? Condition.ready) := by
  cases check with
  | mismatch required =>
    have stays :
        (version.isOk && decide (NamespaceCheck.mismatch required = .allowed)) = false := by
      simp
    simp only [resolve, stays]
    exact (markFailed_states _ _ _ _ _ Condition.ready_ne_install).2
  | allowed =>
    cases version with
    | ok u => exact clearReady_settles _
    | error e =>
      have kept := condition?_record .allowed (s.recordVersion (.error e) now) now
        Condition.ready_ne_install.symm (.inl rfl)
      have failed := (markFailed_states s _ e.reason e.message now
        Condition.ready_ne_dependencies).2
      show ∃ c, (NamespaceCheck.allowed.record (s.recordVersion (.error e) now) now).condition?
        Condition.ready = some c ∧ c.States e.finding
      rw [kept]
      exact failed

theorem settled_resolve (s : ServingStatus) (version : Except VersionError Unit)
    (check : NamespaceCheck) (generation : Option Int64) (now : Instant) :
    (s.resolve version check generation now).Settled version check where
  dependencies := by
    rw [condition?_resolve _ _ _ _ _ Condition.ready_ne_dependencies, condition?_record _ _ _
      Condition.install_ne_dependencies (.inr Condition.ready_ne_dependencies)]
    exact recordVersion_settles s version now
  install := by
    rw [condition?_resolve _ _ _ _ _ Condition.ready_ne_install]
    exact record_settles check _ now
  readiness := readiness_resolve s version check generation now

theorem recordVersion_ok {s : ServingStatus}
    (h : VersionSettled (.ok ()) (s.condition? Condition.dependenciesInstalled)) (now : Instant) :
    s.recordVersion (.ok ()) now = s :=
  if_neg (Bool.eq_false_iff.mp h)

theorem recordVersion_error {s : ServingStatus} {e : VersionError}
    (h : s.States Condition.dependenciesInstalled e.finding) (now : Instant) :
    s.recordVersion (.error e) now = s.setCondition Condition.ready e.finding now := by
  have same := setCondition_of_states h now
  show (s.setCondition Condition.dependenciesInstalled e.finding now).setCondition
    Condition.ready e.finding now = _
  rw [same]

theorem record_allowed {s : ServingStatus}
    (h : NamespaceSettled .allowed (s.condition? Condition.installSucceeded)) (now : Instant) :
    NamespaceCheck.allowed.record s now = s :=
  if_neg (Bool.eq_false_iff.mp h)

theorem record_mismatch {s : ServingStatus} {check : NamespaceCheck} {message : String}
    (found : check.message? = some message)
    (h : s.States Condition.installSucceeded (NamespaceCheck.finding message)) (now : Instant) :
    check.record s now = s.setCondition Condition.ready (NamespaceCheck.finding message) now := by
  have same := setCondition_of_states h now
  unfold NamespaceCheck.record
  rw [found]
  show (s.setCondition Condition.installSucceeded (NamespaceCheck.finding message)
    now).setCondition Condition.ready (NamespaceCheck.finding message) now = _
  rw [same]

theorem gates_of_settled {s : ServingStatus} {version : Except VersionError Unit}
    {check : NamespaceCheck} (h : s.Settled version check) (now : Instant) :
    check.record (s.recordVersion version now) now = s := by
  obtain ⟨dependencies, install, readiness⟩ := h
  cases check with
  | allowed =>
    cases version with
    | ok u => rw [recordVersion_ok dependencies, record_allowed install]
    | error e =>
      rw [recordVersion_error dependencies, setCondition_of_states readiness,
        record_allowed install]
  | mismatch required =>
    have ready := setCondition_of_states readiness now
    cases version with
    | ok u =>
      rw [recordVersion_ok dependencies, record_mismatch rfl install]
      exact ready
    | error e =>
      -- The version gate takes readiness for itself, and the namespace gate takes it back.
      have kept :=
        (states_setCondition_of_ne Condition.ready_ne_install s e.finding _ now).mpr install
      rw [recordVersion_error dependencies, record_mismatch rfl kept]
      refine (setCondition_setCondition s Condition.ready ?_ now).trans ready
      rfl

theorem resolve_of_settled {s : ServingStatus} {version : Except VersionError Unit}
    {check : NamespaceCheck} (h : s.Settled version check) (generation : Option Int64)
    (now : Instant) : s.resolve version check generation now = s.observe generation := by
  unfold resolve
  rw [gates_of_settled h]
  cases check with
  | mismatch required => simp
  | allowed =>
    cases version with
    | error e => rfl
    | ok u =>
      have kept : s.clearReady = s := if_neg (Bool.eq_false_iff.mp h.readiness)
      simp [kept]

/-- A second pass over what the first one stored changes nothing, whenever it comes. -/
theorem resolve_resolve (s : ServingStatus) (version : Except VersionError Unit)
    (check : NamespaceCheck) (generation : Option Int64) (now later : Instant) :
    (s.resolve version check generation now).resolve version check generation later =
      s.resolve version check generation now := by
  rw [resolve_of_settled (settled_resolve s version check generation now)]
  exact observe_observe _ generation

end ServingStatus

end ServingOperator
