import Mathlib.Data.List.Induction
import ServingOperator.Proofs.Serving.Conditions

namespace ServingOperator

inductive ConditionCall where
  | set (type : String) (f : Condition.Finding) (now : Instant)
  | remove (type : String)
  | markInstallFailed (reason message : String) (now : Instant)
  | markDependencyMissing (reason message : String) (now : Instant)
  | markDependenciesInstalled (now : Instant)

abbrev ConditionEntry := Option (Condition.Finding × Instant)

structure ConditionWrite where
  type : String
  entry : ConditionEntry

namespace ConditionCall

def apply (s : ServingStatus) : ConditionCall → ServingStatus
  | set type f now => s.setCondition type f now
  | remove type => s.removeCondition type
  | markInstallFailed reason message now => s.markInstallFailed reason message now
  | markDependencyMissing reason message now => s.markDependencyMissing reason message now
  | markDependenciesInstalled now => s.markDependenciesInstalled now

def writes : ConditionCall → List ConditionWrite
  | set type f now => [⟨type, some (f, now)⟩]
  | remove type => [⟨type, none⟩]
  | markInstallFailed reason message now =>
    [⟨"InstallSucceeded", some (⟨"False", some reason, some message⟩, now)⟩,
      ⟨"Ready", some (⟨"False", some reason, some message⟩, now)⟩]
  | markDependencyMissing reason message now =>
    [⟨"DependenciesInstalled", some (⟨"False", some reason, some message⟩, now)⟩,
      ⟨"Ready", some (⟨"False", some reason, some message⟩, now)⟩]
  | markDependenciesInstalled now =>
    [⟨"DependenciesInstalled", some (⟨"True", none, none⟩, now)⟩]

end ConditionCall

namespace Condition

def turns (status : Option String) : List ConditionEntry → List Instant
  | [] => []
  | none :: rest => turns none rest
  | some (f, now) :: rest =>
    if status = some f.status then turns status rest else now :: turns (some f.status) rest

/-- Since when the status of a type is as it is: since its last turn, or as it said before. -/
def since (original : Option Condition) (entries : List ConditionEntry) : Option String :=
  match (turns (original.map (·.status)) entries).getLast? with
  | some now => some now.rfc3339
  | none => original.bind (·.lastTransitionTime)

def told? (type : String) (original : Option Condition) (entries : List ConditionEntry) :
    Option Condition :=
  match entries.getLast? with
  | none => original
  | some none => none
  | some (some (f, _)) => some ⟨type, f.status, f.reason, f.message, since original entries⟩

def statusAfter (status : Option String) (entries : List ConditionEntry) : Option String :=
  match entries.getLast? with
  | none => status
  | some entry => entry.map (·.1.status)

def entered (type : String) (old : Option Condition) (entry : ConditionEntry) :
    Option Condition :=
  entry.map fun (f, now) => recorded type f now old

theorem turns_concat (status : Option String) (entries : List ConditionEntry)
    (entry : ConditionEntry) :
    turns status (entries ++ [entry]) =
      turns status entries ++ turns (statusAfter status entries) [entry] := by
  induction entries generalizing status with
  | nil => rfl
  | cons head entries ih =>
    -- The first entry decides which status the others start from.
    have later : statusAfter status (head :: entries) =
        statusAfter (head.map (·.1.status)) entries := by
      unfold statusAfter
      rw [List.getLast?_cons]
      cases entries.getLast? <;> rfl
    rw [later]
    cases head with
    | none => exact ih none
    | some finding =>
      obtain ⟨f, now⟩ := finding
      by_cases same : status = some f.status
      · subst same
        simpa [turns] using ih (some f.status)
      · simpa [turns, same] using ih (some f.status)

theorem since_concat (original : Option Condition) (entries : List ConditionEntry) (f : Finding)
    (now : Instant) :
    since original (entries ++ [some (f, now)]) =
      if statusAfter (original.map (·.status)) entries = some f.status then since original entries
      else some now.rfc3339 := by
  unfold since
  rw [turns_concat]
  by_cases same : statusAfter (original.map (·.status)) entries = some f.status
  · rw [if_pos same]
    simp [turns, same]
  · rw [if_neg same]
    simp [turns, same]

theorem status_told? (type : String) (original : Option Condition)
    (entries : List ConditionEntry) :
    (told? type original entries).map (·.status) =
      statusAfter (original.map (·.status)) entries := by
  unfold told? statusAfter
  rcases entries.getLast? with _ | _ | finding <;> rfl

section

variable {type : String} {original : Option Condition}
  (ofType : ∀ c, original = some c → c.type = type)

include ofType

theorem told?_since {entries : List ConditionEntry} {c : Condition}
    (left : told? type original entries = some c) :
    c.type = type ∧ c.lastTransitionTime = since original entries := by
  unfold told? at left
  cases last : entries.getLast? with
  | none =>
    rw [last] at left
    have empty : entries = [] := List.getLast?_eq_none_iff.mp last
    subst empty
    dsimp only at left
    subst left
    exact ⟨ofType c rfl, rfl⟩
  | some entry =>
    rw [last] at left
    cases entry with
    | none => cases left
    | some finding =>
      cases left
      exact ⟨rfl, rfl⟩

theorem told?_concat (entries : List ConditionEntry) (entry : ConditionEntry) :
    told? type original (entries ++ [entry]) =
      entered type (told? type original entries) entry := by
  cases entry with
  | none =>
    rw [told?, List.getLast?_concat]
    rfl
  | some finding =>
    obtain ⟨f, now⟩ := finding
    have status := status_told? type original entries
    rw [told?, List.getLast?_concat]
    dsimp only
    rw [since_concat, ← status]
    cases left : told? type original entries with
    | none => rfl
    | some c =>
      obtain ⟨named, dated⟩ := told?_since ofType left
      simp [entered, recorded, update, named, dated]

theorem foldl_entered (entries : List ConditionEntry) :
    entries.foldl (entered type) original = told? type original entries := by
  induction entries using List.reverseRecOn with
  | nil => rfl
  | append_singleton entries entry ih =>
    rw [List.foldl_append, List.foldl_cons, List.foldl_nil, ih, told?_concat ofType]

end

end Condition

namespace ConditionWrite

def apply (s : ServingStatus) (w : ConditionWrite) : ServingStatus :=
  match w.entry with
  | some (f, now) => s.setCondition w.type f now
  | none => s.removeCondition w.type

def trail (type : String) (writes : List ConditionWrite) : List ConditionEntry :=
  (writes.filter (·.type = type)).map (·.entry)

/-- The types of the conditions that writes add and do not take away again, in the order of these
    additions. A write adds a condition if there is none of its type when it comes. -/
def additions (s : ServingStatus) : List ConditionWrite → List String
  | [] => []
  | w :: rest =>
    (if s.condition? w.type = none ∧ w.entry ≠ none ∧ none ∉ trail w.type rest then [w.type]
      else []) ++ additions (w.apply s) rest

theorem trail_cons (type : String) (w : ConditionWrite) (rest : List ConditionWrite) :
    trail type (w :: rest) =
      if w.type = type then w.entry :: trail type rest else trail type rest := by
  by_cases same : w.type = type <;> simp [trail, same]

theorem condition?_apply (s : ServingStatus) (w : ConditionWrite) (type : String) :
    (w.apply s).condition? type =
      if w.type = type then Condition.entered type (s.condition? type) w.entry
      else s.condition? type := by
  unfold apply Condition.entered
  cases w.entry with
  | none => exact ServingStatus.condition?_removeCondition s w.type type
  | some finding =>
    dsimp only
    rw [ServingStatus.condition?_setCondition]
    by_cases same : w.type = type
    · subst same
      simp
    · simp [same]

theorem condition?_foldl (s : ServingStatus) (writes : List ConditionWrite) (type : String) :
    (writes.foldl apply s).condition? type =
      (trail type writes).foldl (Condition.entered type) (s.condition? type) := by
  induction writes generalizing s with
  | nil => rfl
  | cons w rest ih =>
    rw [List.foldl_cons, ih, condition?_apply, trail_cons]
    split <;> rfl

theorem distinctTypes_apply {s : ServingStatus} (h : s.DistinctTypes) (w : ConditionWrite) :
    (w.apply s).DistinctTypes := by
  unfold apply
  split
  · exact ServingStatus.distinctTypes_setCondition h w.type _ _
  · exact ServingStatus.distinctTypes_removeCondition h w.type

theorem distinctTypes_foldl {s : ServingStatus} (h : s.DistinctTypes)
    (writes : List ConditionWrite) : (writes.foldl apply s).DistinctTypes := by
  induction writes generalizing s with
  | nil => exact h
  | cons w rest ih => exact ih (distinctTypes_apply h w)

theorem types_apply (s : ServingStatus) (w : ConditionWrite) :
    (w.apply s).conditions.map (·.type) =
      if w.entry = none then (s.conditions.map (·.type)).filter (· ≠ w.type)
      else if s.condition? w.type = none then s.conditions.map (·.type) ++ [w.type]
      else s.conditions.map (·.type) := by
  unfold apply
  cases w.entry with
  | none =>
    rw [if_pos rfl, List.filter_map]
    rfl
  | some finding =>
    have absent := ServingStatus.condition?_eq_none_iff s w.type
    dsimp only
    rw [if_neg (Option.some_ne_none _), ServingStatus.setCondition, Condition.map_type_record]
    by_cases present : w.type ∈ s.conditions.map (·.type)
    · rw [if_pos present, if_neg fun none_ => absent.mp none_ present]
    · rw [if_neg present, if_pos (absent.mpr present)]

theorem none_mem_trail_cons (type : String) (w : ConditionWrite) (rest : List ConditionWrite) :
    none ∈ trail type (w :: rest) ↔
      w.type = type ∧ w.entry = none ∨ none ∈ trail type rest := by
  rw [trail_cons]
  by_cases same : w.type = type <;> simp [same, eq_comm]

theorem types_foldl (s : ServingStatus) (writes : List ConditionWrite) :
    (writes.foldl apply s).conditions.map (·.type) =
      (s.conditions.map (·.type)).filter (fun type => none ∉ trail type writes) ++
        additions s writes := by
  induction writes generalizing s with
  | nil => simp [trail, additions]
  | cons w rest ih =>
    rw [List.foldl_cons, ih, types_apply, additions]
    by_cases removal : w.entry = none
    · -- What is taken away does not stay, whatever the later writes are.
      simp only [removal, if_true, ne_eq, not_true_eq_false, false_and, and_false, if_false,
        List.nil_append, List.filter_filter, none_mem_trail_cons, and_true]
      congr 2
      funext type
      by_cases same : type = w.type
      · simp [same]
      · simp [same, Ne.symm same]
    · -- A finding takes nothing away. A type that it adds comes behind all that stay.
      have kept : (fun type => decide (none ∉ trail type (w :: rest))) =
          fun type => decide (none ∉ trail type rest) := by
        funext type
        simp [none_mem_trail_cons, removal]
      rw [if_neg removal, kept]
      by_cases absent : s.condition? w.type = none
      · simp only [if_pos absent, List.filter_append, List.append_assoc]
        congr 2
        by_cases taken : none ∈ trail w.type rest <;> simp [absent, removal, taken]
      · simp [absent]

theorem filter_apply {s : ServingStatus} {w : ConditionWrite} {types : List String}
    (own : w.type ∈ types) :
    ((w.apply s).conditions.filter fun c => c.type ∉ types) =
      s.conditions.filter fun c => c.type ∉ types := by
  unfold apply
  split
  · exact Condition.filter_record own _ _ _
  · exact Condition.filter_remove own _

theorem filter_foldl (s : ServingStatus) {writes : List ConditionWrite} {types : List String}
    (own : ∀ w ∈ writes, w.type ∈ types) :
    ((writes.foldl apply s).conditions.filter fun c => c.type ∉ types) =
      s.conditions.filter fun c => c.type ∉ types := by
  induction writes generalizing s with
  | nil => rfl
  | cons w rest ih =>
    rw [List.foldl_cons, ih _ fun w' member => own w' (List.mem_cons_of_mem _ member)]
    exact filter_apply (own w List.mem_cons_self)

end ConditionWrite

namespace ConditionCall

theorem apply_eq (s : ServingStatus) (call : ConditionCall) :
    call.apply s = call.writes.foldl ConditionWrite.apply s := by
  cases call <;> rfl

theorem foldl_apply (s : ServingStatus) (calls : List ConditionCall) :
    calls.foldl apply s = (calls.flatMap writes).foldl ConditionWrite.apply s := by
  induction calls generalizing s with
  | nil => rfl
  | cons call calls ih =>
    rw [List.foldl_cons, ih, List.flatMap_cons, List.foldl_append, apply_eq]

end ConditionCall

/-- After any calls on a status without repeated types: which conditions there are and in which
    order, what each of them says and since when, and that what was not written is as it was. -/
theorem ServingStatus.conditions_after_calls {s : ServingStatus} (distinct : s.DistinctTypes)
    (calls : List ConditionCall) :
    let left := calls.foldl ConditionCall.apply s
    let writes := calls.flatMap ConditionCall.writes
    left.DistinctTypes ∧
      left.conditions.map (·.type) =
        (s.conditions.map (·.type)).filter (fun type => none ∉ ConditionWrite.trail type writes) ++
          ConditionWrite.additions s writes ∧
      (∀ type, left.condition? type =
        Condition.told? type (s.condition? type) (ConditionWrite.trail type writes)) ∧
      (left.conditions.filter fun c => c.type ∉ writes.map (·.type)) =
        s.conditions.filter fun c => c.type ∉ writes.map (·.type) := by
  intro left writes
  have run : left = writes.foldl ConditionWrite.apply s := ConditionCall.foldl_apply s calls
  rw [run]
  refine ⟨ConditionWrite.distinctTypes_foldl distinct writes,
    ConditionWrite.types_foldl s writes, fun type => ?_,
    ConditionWrite.filter_foldl s fun w member => List.mem_map_of_mem member⟩
  rw [ConditionWrite.condition?_foldl]
  exact Condition.foldl_entered (fun c found => type_of_condition? found) _

theorem ServingStatus.conditions_after_calls_recovering :
    let s : ServingStatus := { conditions := [
      ⟨"DependenciesInstalled", "False", some "VersionTooLow", none, some "2024-01-31T12:00:00+00:00"⟩,
      ⟨"DomainReady", "Unknown", none, none, some "2024-01-31T12:00:00+00:00"⟩] }
    let calls : List ConditionCall := [
      .markDependenciesInstalled ⟨100, 0⟩,
      .markDependenciesInstalled ⟨200, 0⟩,
      .markInstallFailed "ManifestError" "no manifest" ⟨300, 0⟩,
      .remove "InstallSucceeded",
      .set "DomainReady" ⟨"Unknown", some "Pending", none⟩ ⟨400, 0⟩,
      .set "InstallSucceeded" { status := "True" } ⟨500, 0⟩]
    let left := calls.foldl ConditionCall.apply s
    s.DistinctTypes ∧
      left.conditions.map (·.type) =
        ["DependenciesInstalled", "DomainReady", "Ready", "InstallSucceeded"] ∧
      left.condition? "DependenciesInstalled" =
        some ⟨"DependenciesInstalled", "True", none, none, some "1970-01-01T00:01:40+00:00"⟩ ∧
      left.condition? "DomainReady" =
        some ⟨"DomainReady", "Unknown", some "Pending", none, some "2024-01-31T12:00:00+00:00"⟩ ∧
      left.condition? "InstallSucceeded" =
        some ⟨"InstallSucceeded", "True", none, none, some "1970-01-01T00:08:20+00:00"⟩ := by
  intro s calls left
  have distinct : s.DistinctTypes := by
    unfold DistinctTypes
    decide
  obtain ⟨-, types, each, -⟩ := conditions_after_calls distinct calls
  exact ⟨distinct, types.trans (by decide), (each _).trans (by decide),
    (each _).trans (by decide), (each _).trans (by decide)⟩

end ServingOperator
