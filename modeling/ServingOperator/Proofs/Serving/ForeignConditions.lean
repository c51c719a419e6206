import ServingOperator.Proofs.Serving.Conditions
import ServingOperator.Serving.Resolution

namespace ServingOperator

namespace Condition

def gateTypes : List String := ["DependenciesInstalled", "InstallSucceeded", "Ready"]

def foreign (cs : List Condition) : List Condition := cs.filter fun c => c.type ∉ gateTypes

theorem foreign_record {type : String} (own : type ∈ gateTypes) (f : Finding) (now : Instant)
    (cs : List Condition) : foreign (record type f now cs) = foreign cs :=
  filter_record own f now cs

theorem foreign_remove {type : String} (own : type ∈ gateTypes) (cs : List Condition) :
    foreign (cs.filter (·.type ≠ type)) = foreign cs :=
  filter_remove own cs

def revised? (type : String) (change : Condition → Option Condition) (c : Condition) :
    Option Condition :=
  if c.type = type then change c else some c

def revise (type : String) (change : Condition → Option Condition) (cs : List Condition) :
    List Condition :=
  cs.filterMap (revised? type change)

section

variable {type : String} {change : Condition → Option Condition} {c : Condition}
  {cs : List Condition}

theorem revise_cons_of_ne (differ : c.type ≠ type) :
    revise type change (c :: cs) = c :: revise type change cs :=
  List.filterMap_cons_some (if_neg differ)

theorem revise_cons_self (same : c.type = type) :
    revise type change (c :: cs) = (change c).toList ++ revise type change cs := by
  rw [revise, List.filterMap_cons, revised?, if_pos same]
  cases change c <;> rfl

theorem revise_of_absent (absent : type ∉ cs.map (·.type)) : revise type change cs = cs := by
  induction cs with
  | nil => rfl
  | cons c cs ih =>
    simp only [List.map_cons, List.mem_cons, not_or] at absent
    obtain ⟨differ, absent⟩ := absent
    rw [revise_cons_of_ne (Ne.symm differ), ih absent]

theorem remove_eq_revise (type : String) (cs : List Condition) :
    cs.filter (·.type ≠ type) = revise type (fun _ => none) cs := by
  rw [revise, ← List.filterMap_eq_filter]
  refine List.filterMap_congr fun c _ => ?_
  by_cases same : c.type = type <;> simp [Option.guard, revised?, same]

theorem record_eq_revise (distinct : (cs.map (·.type)).Nodup)
    (found : cs.find? (·.type = type) = some c) (f : Finding) (now : Instant) :
    record type f now cs = revise type (fun c => some (c.update f now)) cs := by
  induction cs with
  | nil => cases found
  | cons head cs ih =>
    rw [List.map_cons, List.nodup_cons] at distinct
    rw [record]
    by_cases same : head.type = type
    · rw [if_pos same, revise_cons_self same, revise_of_absent (same ▸ distinct.1)]
      rfl
    · have later : cs.find? (·.type = type) = some c := by simpa [same] using found
      rw [if_neg same, revise_cons_of_ne same, ih distinct.2 later]

theorem revise_if (type : String) (change : Condition → Option Condition)
    (distinct : (cs.map (·.type)).Nodup) (p : Condition → Bool) :
    (if (cs.find? (·.type = type)).any p then revise type change cs else cs) =
      revise type (fun c => if p c then change c else some c) cs := by
  induction cs with
  | nil => rfl
  | cons head cs ih =>
    rw [List.map_cons, List.nodup_cons] at distinct
    by_cases same : head.type = type
    · have absent : type ∉ cs.map (·.type) := same ▸ distinct.1
      have found : (head :: cs).find? (·.type = type) = some head := by simp [same]
      rw [found, revise_cons_self same, revise_cons_self same, revise_of_absent absent,
        revise_of_absent absent]
      cases holds : p head <;> simp [holds]
    · have later : (head :: cs).find? (·.type = type) = cs.find? (·.type = type) := by
        simp [same]
      rw [later, revise_cons_of_ne same, revise_cons_of_ne same, ← ih distinct.2]
      split <;> rfl

end

def HasGateReason (c : Condition) : Prop :=
  c.reason ∈ [some "VersionTooLow", some "VersionUnparsable", some "NamespaceMismatch"]

instance (c : Condition) : Decidable c.HasGateReason := inferInstanceAs (Decidable (_ ∈ _))

theorem isFromGate_iff (c : Condition) : c.isFromGate = true ↔ c.HasGateReason := by
  unfold isFromGate HasGateReason gateReasons NamespaceCheck.reason
  cases c.reason <;> simp

/-- What becomes of a condition once both gates pass. -/
def afterGates (now : Instant) (c : Condition) : Option Condition :=
  if c.type = "DependenciesInstalled" ∧ c.status = "False" ∧ c.HasGateReason then
    some ⟨"DependenciesInstalled", "True", none, none, some now.rfc3339⟩
  else if c.type = "InstallSucceeded" ∧ c.reason = some "NamespaceMismatch" then none
  else if c.type = "Ready" ∧ c.HasGateReason then none
  else some c

theorem afterGates_of_foreign_reason {c : Condition} (other : ¬c.HasGateReason) (now : Instant) :
    c.afterGates now = some c := by
  have notMismatch : c.reason ≠ some "NamespaceMismatch" := by
    intro mismatch
    exact other (by simp [HasGateReason, mismatch])
  simp [afterGates, other, notMismatch]

def acceptVersion (now : Instant) (c : Condition) : Option Condition :=
  if c.isGateFailure then some (c.update { status := "True" } now) else some c

def acceptNamespace (c : Condition) : Option Condition :=
  if c.reason = some NamespaceCheck.reason then none else some c

def acceptBoth (c : Condition) : Option Condition := if c.isFromGate then none else some c

theorem afterGates_eq (c : Condition) (now : Instant) :
    ((c.revised? dependenciesInstalled (acceptVersion now)).bind fun c =>
      (c.revised? installSucceeded acceptNamespace).bind (revised? ready acceptBoth)) =
        c.afterGates now := by
  have gate := c.isFromGate_iff
  unfold revised? dependenciesInstalled installSucceeded ready
  by_cases dependencies : c.type = "DependenciesInstalled"
  · by_cases failed : c.status = "False" ∧ c.HasGateReason
    · have recorded : c.isGateFailure = true := by simp [isGateFailure, gate, failed]
      simp [afterGates, acceptVersion, dependencies, failed, recorded, update]
    · have recorded : c.isGateFailure = false := by
        simpa [isGateFailure, gate, ← Bool.not_eq_true] using failed
      simp [afterGates, acceptVersion, dependencies, failed, recorded]
  by_cases install : c.type = "InstallSucceeded"
  · by_cases mismatch : c.reason = some "NamespaceMismatch" <;>
      simp [afterGates, acceptNamespace, NamespaceCheck.reason, install, mismatch]
  by_cases ready : c.type = "Ready"
  · by_cases given : c.HasGateReason <;> simp [afterGates, acceptBoth, ready, gate, given]
  · simp [afterGates, dependencies, install, ready]

end Condition

theorem filter_sublist_filterMap {α : Type} {p : α → Bool} {f : α → Option α}
    (kept : ∀ x, p x = true → f x = some x) (xs : List α) :
    (xs.filter p).Sublist (xs.filterMap f) := by
  induction xs with
  | nil => exact .slnil
  | cons x xs ih =>
    cases px : p x with
    | true =>
      rw [List.filter_cons_of_pos px, List.filterMap_cons_some (kept x px)]
      exact ih.cons_cons x
    | false =>
      rw [List.filter_cons_of_neg (by simp [px]), List.filterMap_cons]
      cases f x with
      | none => exact ih
      | some y => exact ih.cons y

namespace ServingStatus

/-- What others wrote is as it was. -/
structure SameForeign (before after : ServingStatus) : Prop where
  version : after.version = before.version
  generation : after.observedGeneration = before.observedGeneration
  conditions : Condition.foreign after.conditions = Condition.foreign before.conditions

theorem SameForeign.refl (s : ServingStatus) : s.SameForeign s := ⟨rfl, rfl, rfl⟩

theorem SameForeign.trans {s t u : ServingStatus} (first : s.SameForeign t)
    (second : t.SameForeign u) : s.SameForeign u :=
  ⟨second.version.trans first.version, second.generation.trans first.generation,
    second.conditions.trans first.conditions⟩

section

variable {type : String} (own : type ∈ Condition.gateTypes) (s : ServingStatus) (now : Instant)

include own

theorem sameForeign_setCondition (f : Condition.Finding) :
    s.SameForeign (s.setCondition type f now) :=
  ⟨rfl, rfl, Condition.foreign_record own f now s.conditions⟩

theorem sameForeign_removeCondition : s.SameForeign (s.removeCondition type) :=
  ⟨rfl, rfl, Condition.foreign_remove own s.conditions⟩

theorem sameForeign_markFailed (reason message : String) :
    s.SameForeign (s.markFailed type reason message now) := by
  have ready : Condition.ready ∈ Condition.gateTypes := by decide
  exact (sameForeign_setCondition own s now _).trans (sameForeign_setCondition ready _ now _)

end

theorem sameForeign_recordVersion (s : ServingStatus) (version : Except VersionError Unit)
    (now : Instant) : s.SameForeign (s.recordVersion version now) := by
  have own : Condition.dependenciesInstalled ∈ Condition.gateTypes := by decide
  cases version with
  | error e => exact sameForeign_markFailed own s now e.reason e.message
  | ok u =>
    dsimp only [recordVersion]
    split
    · exact sameForeign_setCondition own s now _
    · exact .refl s

theorem sameForeign_record (check : NamespaceCheck) (s : ServingStatus) (now : Instant) :
    s.SameForeign (check.record s now) := by
  have own : Condition.installSucceeded ∈ Condition.gateTypes := by decide
  unfold NamespaceCheck.record
  cases check.message? with
  | some message => exact sameForeign_markFailed own s now _ message
  | none =>
    dsimp only
    split
    · exact sameForeign_removeCondition own s
    · exact .refl s

theorem sameForeign_clearReady (s : ServingStatus) : s.SameForeign s.clearReady := by
  have own : Condition.ready ∈ Condition.gateTypes := by decide
  unfold clearReady
  split
  · exact sameForeign_removeCondition own s
  · exact .refl s

theorem sameForeign_resolve (s : ServingStatus) (version : Except VersionError Unit)
    (check : NamespaceCheck) (generation : Option Int64) (now : Instant) :
    ∃ gated : ServingStatus, s.SameForeign gated ∧
      s.resolve version check generation now = gated.observe generation := by
  have gates := (s.sameForeign_recordVersion version now).trans (sameForeign_record check _ now)
  unfold resolve
  dsimp only
  split
  · exact ⟨_, gates.trans (sameForeign_clearReady _), rfl⟩
  · exact ⟨_, gates, rfl⟩

theorem conditions_recordVersion {s : ServingStatus} (distinct : s.DistinctTypes)
    (now : Instant) :
    (s.recordVersion (.ok ()) now).conditions =
      Condition.revise Condition.dependenciesInstalled (Condition.acceptVersion now)
        s.conditions := by
  unfold Condition.acceptVersion
  rw [← Condition.revise_if _ _ distinct, recordVersion, condition?]
  cases found : s.conditions.find? (·.type = Condition.dependenciesInstalled) with
  | none => rfl
  | some c =>
    have recorded := Condition.record_eq_revise distinct found { status := "True" } now
    cases failed : c.isGateFailure with
    | false => simp [failed]
    | true => simpa [failed, markDependenciesInstalled, setCondition] using recorded

theorem conditions_record {s : ServingStatus} (distinct : s.DistinctTypes) (now : Instant) :
    (NamespaceCheck.allowed.record s now).conditions =
      Condition.revise Condition.installSucceeded Condition.acceptNamespace s.conditions := by
  have decided := Condition.revise_if Condition.installSucceeded (fun _ => none) distinct
    (·.reason = some NamespaceCheck.reason)
  simp only [← Condition.remove_eq_revise, decide_eq_true_eq] at decided
  unfold Condition.acceptNamespace
  rw [← decided, NamespaceCheck.record]
  exact apply_ite conditions _ _ _

theorem conditions_clearReady {s : ServingStatus} (distinct : s.DistinctTypes) :
    s.clearReady.conditions =
      Condition.revise Condition.ready Condition.acceptBoth s.conditions := by
  have decided := Condition.revise_if Condition.ready (fun _ => none) distinct
    (·.isFromGate)
  unfold Condition.acceptBoth
  rw [← decided, ← Condition.remove_eq_revise, clearReady]
  exact apply_ite conditions _ _ _

theorem conditions_resolve {s : ServingStatus} (distinct : s.DistinctTypes)
    (generation : Option Int64) (now : Instant) :
    (s.resolve (.ok ()) .allowed generation now).conditions =
      s.conditions.filterMap (·.afterGates now) := by
  have versioned : (s.recordVersion (.ok ()) now).DistinctTypes := by
    dsimp only [recordVersion]
    split
    · exact distinctTypes_setCondition distinct _ _ now
    · exact distinct
  have spaced :
      (NamespaceCheck.allowed.record (s.recordVersion (.ok ()) now) now).DistinctTypes := by
    dsimp only [NamespaceCheck.record, NamespaceCheck.message?]
    split
    · exact distinctTypes_removeCondition versioned _
    · exact versioned
  show (NamespaceCheck.allowed.record (s.recordVersion (.ok ()) now) now).clearReady.conditions = _
  rw [conditions_clearReady spaced, conditions_record versioned, conditions_recordVersion distinct]
  unfold Condition.revise
  rw [List.filterMap_filterMap, List.filterMap_filterMap]
  exact List.filterMap_congr fun c _ => c.afterGates_eq now

end ServingStatus

namespace KnativeServing

/-- A pass touches only conditions of the gates' three types. Where both gates pass and no type is
    repeated, it touches only those that a gate gave its reason for. -/
theorem resolve_keeps_foreign (serving : KnativeServing) (facts : Facts) (config : OperatorConfig)
    (now : Instant) :
    let given := serving.status.getD {}
    let left := (serving.resolve facts config now).status
    let types := ["DependenciesInstalled", "InstallSucceeded", "Ready"]
    (left.conditions.filter fun c => c.type ∉ types) =
        (given.conditions.filter fun c => c.type ∉ types) ∧
      left.version = given.version ∧
      left.observedGeneration = serving.metadata.generation.or given.observedGeneration ∧
      (Version.checkMinimum facts.version config.minimumVersion = .ok () →
        NamespaceCheck.of serving.metadata.inNamespace config.requiredNamespace = .allowed →
        (given.conditions.map (·.type)).Nodup →
        left.conditions = given.conditions.filterMap (·.afterGates now) ∧
          (given.conditions.filter fun c => ¬c.HasGateReason).Sublist left.conditions) := by
  intro given left types
  obtain ⟨gated, same, observed⟩ := given.sameForeign_resolve
    (Version.checkMinimum facts.version config.minimumVersion)
    (NamespaceCheck.of serving.metadata.inNamespace config.requiredNamespace)
    serving.metadata.generation now
  have observed : left = gated.observe serving.metadata.generation := observed
  refine ⟨?_, ?_, ?_, fun version allowed distinct => ?_⟩
  · rw [observed]
    exact same.conditions
  · rw [observed]
    exact same.version
  · rw [observed, ServingStatus.observe, same.generation]
  · have conditions := ServingStatus.conditions_resolve distinct serving.metadata.generation now
    rw [← version, ← allowed] at conditions
    change left.conditions = _ at conditions
    rw [conditions]
    refine ⟨rfl, filter_sublist_filterMap (fun c other => ?_) given.conditions⟩
    exact Condition.afterGates_of_foreign_reason (of_decide_eq_true other) now

def recovering : KnativeServing where
  metadata := { inNamespace := some "knative-serving" }
  spec := {}
  status := some { conditions := [
    ⟨"DeploymentsAvailable", "False", some "VersionTooLow", none, none⟩,
    ⟨"DependenciesInstalled", "False", some "VersionTooLow", none, none⟩,
    ⟨"InstallSucceeded", "False", some "ManifestError", none, none⟩,
    ⟨"Ready", "False", some "NamespaceMismatch", none, none⟩] }

theorem resolve_keeps_foreign_recovering :
    let facts : Facts := { version := "v1.28.3" }
    let config : OperatorConfig := { requiredNamespace := some "knative-serving" }
    let now : Instant := ⟨0, 0⟩
    let given := recovering.status.getD {}
    Version.checkMinimum facts.version config.minimumVersion = .ok () ∧
      NamespaceCheck.of recovering.metadata.inNamespace config.requiredNamespace = .allowed ∧
      (given.conditions.map (·.type)).Nodup ∧
      (recovering.resolve facts config now).status.conditions = [
        ⟨"DeploymentsAvailable", "False", some "VersionTooLow", none, none⟩,
        ⟨"DependenciesInstalled", "True", none, none, some "1970-01-01T00:00:00+00:00"⟩,
        ⟨"InstallSucceeded", "False", some "ManifestError", none, none⟩] := by
  intro facts config now given
  have version : Version.checkMinimum facts.version config.minimumVersion = .ok () := by decide
  have distinct : (given.conditions.map (·.type)).Nodup := by decide
  obtain ⟨-, -, -, passing⟩ := resolve_keeps_foreign recovering facts config now
  obtain ⟨conditions, -⟩ := passing version rfl distinct
  exact ⟨version, rfl, distinct, conditions.trans (by decide)⟩

end KnativeServing

end ServingOperator
