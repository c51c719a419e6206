import ServingOperator.Proofs.Serving.ConfigCells
import ServingOperator.Proofs.Wire.Paths
import ServingOperator.Wire.ServingFormat

namespace ServingOperator

namespace ConfigSections

theorem isEmpty_set (c : ConfigSections) (name key value : String) :
    (c.set name key value).isEmpty = false := by
  rw [Bool.eq_false_iff]
  intro empty
  have held := get?_set c name key value name key
  rw [if_pos ⟨rfl, rfl⟩, get?, section?, StringMap.get?_of_isEmpty empty] at held
  cases held

theorem section?_of_set {c : ConfigSections} {name key value other : String}
    (bare : (c.set name key value).section? other = some ∅) : c.section? other = some ∅ := by
  rw [section?, set, StringMap.get?_insert] at bare
  by_cases own : name = other
  · -- The section that is written to holds the value.
    have held := StringMap.get?_insert ((c.section? name).getD ∅) key key value
    rw [if_pos own, Option.some.injEq] at bare
    rw [bare, if_pos rfl] at held
    cases held
  · rwa [if_neg own] at bare

end ConfigSections

inductive ConfigCall where
  | set (name key value : String)
  | setIfAbsent (name key value : String)
  | applyMonitoring (switch : Option Bool)
  | applyLogging (host : Option String)

namespace ConfigCall

def apply (c : ConfigSections) : ConfigCall → ConfigSections
  | set name key value => c.set name key value
  | setIfAbsent name key value => (c.setIfAbsent name key value).2
  | applyMonitoring switch => (c.applyMonitoring switch).2
  | applyLogging host => (c.applyLogging host).2

def told? (c : ConfigSections) : ConfigCall → Option Bool
  | set _ _ _ => none
  | setIfAbsent name key value => some (c.setIfAbsent name key value).1
  | applyMonitoring switch => some (c.applyMonitoring switch).1.writeNoBackend
  | applyLogging host => some (c.applyLogging host).1

def cell : ConfigCall → String × String
  | set name key _ => (name, key)
  | setIfAbsent name key _ => (name, key)
  | applyMonitoring _ => ("observability", "metrics.backend-destination")
  | applyLogging _ => ("observability", "logging.revision-url-template")

/-- The value that a call writes to its cell, by what it finds there. -/
def value? : (found : Option String) → ConfigCall → Option String
  | _, set _ _ value => some value
  | none, setIfAbsent _ _ value => some value
  | none, applyMonitoring switch => if switch = some false then some "none" else none
  | none, applyLogging host => (host.filter (· ≠ "")).map Logging.revisionUrlTemplate
  | some _, _ => none

def replay (found : Option String) (call : ConfigCall) : Option String :=
  (call.value? found).or found

def written? (c : ConfigSections) (call : ConfigCall) : Option String :=
  call.value? (c.get? call.cell.1 call.cell.2)

def log (c : ConfigSections) : List ConfigCall → List ((String × String) × String)
  | [] => []
  | call :: rest => ((call.written? c).map (call.cell, ·)).toList ++ log (call.apply c) rest

/-- A call either writes or does nothing. One that says it has written has found its cell empty. -/
theorem idle_or_writes (c : ConfigSections) (call : ConfigCall) :
    (call.written? c = none ∧ call.told? c = some false ∧ call.apply c = c) ∨
      ∃ value, call.written? c = some value ∧
        call.apply c = c.set call.cell.1 call.cell.2 value ∧
        (call.told? c = none ∨
          call.told? c = some true ∧ c.get? call.cell.1 call.cell.2 = none) := by
  cases call with
  | set name key value => exact .inr ⟨value, rfl, rfl, .inl rfl⟩
  | setIfAbsent name key value =>
    cases found : c.get? name key <;>
      simp [written?, value?, told?, apply, cell, ConfigSections.setIfAbsent_eq,
        ConfigSections.contains, found]
  | applyMonitoring switch =>
    cases found : c.get? "observability" "metrics.backend-destination" <;>
      rcases switch with _ | _ | _ <;>
      simp [written?, value?, told?, apply, cell, ConfigSections.applyMonitoring,
        MonitoringDecision.of, ConfigKey.observability, ConfigKey.metricsBackend,
        ConfigKey.noBackend, found]
  | applyLogging host =>
    rcases host with _ | host
    · cases found : c.get? "observability" "logging.revision-url-template" <;>
        simp [written?, value?, told?, apply, cell, ConfigSections.applyLogging, found]
    · by_cases empty : host = "" <;>
        cases found : c.get? "observability" "logging.revision-url-template" <;>
        simp [written?, value?, told?, apply, cell, ConfigSections.applyLogging,
          ConfigSections.setIfAbsent_eq, ConfigSections.contains, ConfigKey.observability,
          ConfigKey.revisionUrlTemplate, found, empty]

theorem get?_apply (c : ConfigSections) (call : ConfigCall) (name key : String) :
    (call.apply c).get? name key =
      if call.cell = (name, key) then call.replay (c.get? name key) else c.get? name key := by
  by_cases own : call.cell = (name, key)
  · have found : call.value? (c.get? name key) = call.written? c := by rw [written?, own]
    rw [if_pos own, replay, found]
    rcases call.idle_or_writes c with ⟨idle, -, kept⟩ | ⟨value, writes, changed, -⟩
    · rw [idle, kept, Option.none_or]
    · rw [writes, changed, own, ConfigSections.get?_set, if_pos ⟨rfl, rfl⟩, Option.some_or]
  · rw [if_neg own]
    rcases call.idle_or_writes c with ⟨-, -, kept⟩ | ⟨value, -, changed, -⟩
    · rw [kept]
    · have other : ¬(call.cell.1 = name ∧ call.cell.2 = key) := fun same =>
        own (Prod.ext same.1 same.2)
      rw [changed, ConfigSections.get?_set, if_neg other]

theorem get?_foldl_apply (c : ConfigSections) (calls : List ConfigCall) (name key : String) :
    (calls.foldl apply c).get? name key =
      (calls.filter (·.cell = (name, key))).foldl replay (c.get? name key) := by
  induction calls generalizing c with
  | nil => rfl
  | cons call calls ih =>
    rw [List.foldl_cons, ih, get?_apply]
    by_cases own : call.cell = (name, key)
    · simp [own]
    · simp [own]

theorem told?_eq_some_true_iff {c : ConfigSections} {call : ConfigCall} {told : Bool}
    (asked : call.told? c = some told) : told = true ↔ call.apply c ≠ c := by
  rcases call.idle_or_writes c with ⟨-, idle, kept⟩ | ⟨value, -, changed, silent | ⟨wrote, absent⟩⟩
  · rw [idle, Option.some.injEq] at asked
    simp [← asked, kept]
  · rw [silent] at asked
    cases asked
  · rw [wrote, Option.some.injEq] at asked
    refine iff_of_true asked.symm fun same => ?_
    -- The cell was empty, and it is not any more.
    have filled := ConfigSections.get?_set c call.cell.1 call.cell.2 value call.cell.1 call.cell.2
    rw [← changed, same, absent, if_pos ⟨rfl, rfl⟩] at filled
    cases filled

theorem apply_of_written?_eq_none {c : ConfigSections} {call : ConfigCall}
    (idle : call.written? c = none) : call.apply c = c := by
  rcases call.idle_or_writes c with ⟨-, -, kept⟩ | ⟨value, writes, -⟩
  · exact kept
  · rw [idle] at writes
    cases writes

theorem section?_of_apply {c : ConfigSections} {call : ConfigCall} {name : String}
    (bare : (call.apply c).section? name = some ∅) : c.section? name = some ∅ := by
  rcases call.idle_or_writes c with ⟨-, -, kept⟩ | ⟨value, -, changed, -⟩
  · rwa [kept] at bare
  · rw [changed] at bare
    exact ConfigSections.section?_of_set bare

theorem isEmpty_foldl_apply_iff (c : ConfigSections) (calls : List ConfigCall) :
    (calls.foldl apply c).isEmpty = true ↔ c.isEmpty = true ∧ log c calls = [] := by
  induction calls generalizing c with
  | nil => simp [log]
  | cons call calls ih =>
    rw [List.foldl_cons, ih, log]
    rcases call.idle_or_writes c with ⟨idle, -, kept⟩ | ⟨value, writes, changed, -⟩
    · simp [idle, kept]
    · simp [writes, changed, ConfigSections.isEmpty_set]

end ConfigCall

theorem ServingSpec.get?_config_encode (spec : ServingSpec) :
    (ServingSpec.format.encode spec).get? "config" =
      if spec.config.isEmpty = true then none
      else some (ConfigSections.format.encode spec.config) :=
  Format.get?_encode_record (.tail (by decide) (.tail (by decide) (.tail (by decide)
    (.tail (by decide) (.head (by decide)))))) (by decide) _

/-- After any calls a cell holds what the calls addressed to it make of it. The configuration is
    empty, and a spec is written without it, exactly if it was empty and no call has written. The
    next call changes it exactly if it says so, where it says anything, and never makes a section
    without a value. -/
theorem ConfigSections.cells_after_calls (given : ConfigSections) (calls : List ConfigCall) :
    let left := calls.foldl ConfigCall.apply given
    (∀ name key, left.get? name key =
      (calls.filter (·.cell = (name, key))).foldl ConfigCall.replay (given.get? name key)) ∧
    (∀ next : ConfigCall,
      (∀ told, next.told? left = some told → (told = true ↔ next.apply left ≠ left)) ∧
      (next.written? left = none → next.apply left = left) ∧
      ∀ name, (next.apply left).section? name = some ∅ → left.section? name = some ∅) ∧
    (left.isEmpty = true ↔ given.isEmpty = true ∧ ConfigCall.log given calls = []) ∧
    ∀ spec : ServingSpec,
      (ServingSpec.format.encode { spec with config := left }).get? "config" = none ↔
        given.isEmpty = true ∧ ConfigCall.log given calls = [] := by
  intro left
  have empty : left.isEmpty = true ↔ given.isEmpty = true ∧ ConfigCall.log given calls = [] :=
    ConfigCall.isEmpty_foldl_apply_iff given calls
  refine ⟨ConfigCall.get?_foldl_apply given calls, fun next => ⟨?_, ?_, ?_⟩, empty, fun spec => ?_⟩
  · exact fun told asked => ConfigCall.told?_eq_some_true_iff asked
  · exact fun idle => ConfigCall.apply_of_written?_eq_none idle
  · exact fun name bare => ConfigCall.section?_of_apply bare
  · rw [ServingSpec.get?_config_encode, ← empty]
    simp

theorem ConfigSections.cells_after_calls_named :
    let given : ConfigSections := ⟨StringMap.insert ∅ "domain" ∅⟩
    let calls : List ConfigCall := [.applyMonitoring (some true), .applyLogging (some ""),
      .applyMonitoring (some false), .setIfAbsent "network" "ingress.class" "kourier",
      .set "observability" "metrics.backend-destination" "prometheus"]
    let left := calls.foldl ConfigCall.apply given
    let off : ConfigCall := .applyMonitoring (some false)
    let link : ConfigCall := .applyLogging (some "logs.example.com")
    left.get? "observability" "metrics.backend-destination" = some "prometheus" ∧
      off.written? left = none ∧ off.apply left = left ∧
      (off.apply left).section? "domain" = some ∅ ∧ left.section? "domain" = some ∅ ∧
      link.told? left = some true ∧ link.apply left ≠ left := by
  intro given calls left off link
  obtain ⟨cells, each, -⟩ := cells_after_calls given calls
  have named : left.get? "observability" "metrics.backend-destination" = some "prometheus" :=
    (cells _ _).trans (by decide)
  have idle : off.written? left = none := by
    rw [ConfigCall.written?]
    exact (congrArg off.value? named).trans rfl
  have bare : (off.apply left).section? "domain" = some ∅ := by decide
  have wrote : link.told? left = some true := by decide
  exact ⟨named, idle, (each off).2.1 idle, bare, (each off).2.2 "domain" bare, wrote,
    ((each link).1 true wrote).mp rfl⟩

end ServingOperator
