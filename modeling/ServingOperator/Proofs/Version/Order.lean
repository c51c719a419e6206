import Mathlib.Data.Prod.Lex
import ServingOperator.Proofs.Version.Grammar

namespace ServingOperator.Version

def triple (v : Version) : ℕ ×ₗ ℕ ×ₗ ℕ :=
  toLex (v.major.toNat, toLex (v.minor.toNat, v.patch.toNat))

/-- One number is higher, and those that rank above it are the same. -/
def Raised (v w : Version) : Prop :=
  v.major < w.major ∨ v.major = w.major ∧
    (v.minor < w.minor ∨ v.minor = w.minor ∧ v.patch < w.patch)

theorem triple_lt_iff {v w : Version} : v.triple < w.triple ↔ v.Raised w := by
  simp only [triple, Raised, Prod.Lex.toLex_lt_toLex, UInt64.lt_iff_toNat_lt, UInt64.toNat_inj]

theorem triple_inj {v w : Version} : v.triple = w.triple ↔ v = w := by
  cases v
  cases w
  simp [triple, UInt64.toNat_inj]

theorem compare_eq_lt_iff {v w : Version} : compare v w = .lt ↔ v.triple < w.triple := by
  rw [triple_lt_iff]
  show Version.compare v w = .lt ↔ _
  unfold Version.compare Raised
  rw [Ordering.then_eq_lt, Ordering.then_eq_lt]
  simp only [Std.compare_eq_lt, Std.compare_eq_iff_eq]

theorem checkMinimum_eq (actual minimum : String) :
    checkMinimum actual minimum =
      match parse actual, parse minimum with
      | .error _, _ => .error (.unparsable actual)
      | .ok _, .error _ => .error (.unparsable minimum)
      | .ok v, .ok w =>
        if w.triple ≤ v.triple then .ok () else .error (.tooLow actual minimum) := by
  unfold checkMinimum
  cases left : parse actual with
  | error e =>
    rw [(parse_eq_error_iff.mp left).1]
    rfl
  | ok v =>
    cases right : parse minimum with
    | error e =>
      rw [(parse_eq_error_iff.mp right).1]
      rfl
    | ok w =>
      dsimp only [bind, Except.bind]
      by_cases low : v.triple < w.triple
      · rw [compare_eq_lt_iff.mpr low, if_neg (not_le_of_gt low)]
      · rw [if_pos (not_lt.mp low)]
        have notLow : compare v w ≠ .lt := mt compare_eq_lt_iff.mp low
        cases order : compare v w with
        | lt => exact absurd order notLow
        | eq => rfl
        | gt => rfl

theorem checkMinimum_eq_ok_iff {actual minimum : String} :
    checkMinimum actual minimum = .ok () ↔
      ∃ v w, parse actual = .ok v ∧ parse minimum = .ok w ∧ w.triple ≤ v.triple := by
  rw [checkMinimum_eq]
  cases parse actual <;> cases parse minimum <;> simp

theorem mapError_checkMinimum (actual minimum : String) :
    (checkMinimum actual minimum).mapError VersionError.reason =
      match parse? actual, parse? minimum with
      | some v, some w => if w.triple ≤ v.triple then .ok () else .error "VersionTooLow"
      | _, _ => .error "VersionUnparsable" := by
  rw [checkMinimum_eq]
  unfold parse
  cases parse? actual with
  | none => rfl
  | some v =>
    cases parse? minimum with
    | none => rfl
    | some w =>
      dsimp only
      split <;> rfl

theorem checkMinimum_self {a : String} {v : Version} (read : parse a = .ok v) :
    checkMinimum a a = .ok () :=
  checkMinimum_eq_ok_iff.mpr ⟨v, v, read, read, le_rfl⟩

theorem checkMinimum_trans {a b c : String} (first : checkMinimum a b = .ok ())
    (second : checkMinimum b c = .ok ()) : checkMinimum a c = .ok () := by
  obtain ⟨u, v, readA, readB, low⟩ := checkMinimum_eq_ok_iff.mp first
  obtain ⟨v', w, readB', readC, lower⟩ := checkMinimum_eq_ok_iff.mp second
  obtain rfl : v = v' := Except.ok.inj (readB.symm.trans readB')
  exact checkMinimum_eq_ok_iff.mpr ⟨u, w, readA, readC, lower.trans low⟩

theorem checkMinimum_total {a b : String} {v w : Version} (readA : parse a = .ok v)
    (readB : parse b = .ok w) : checkMinimum a b = .ok () ∨ checkMinimum b a = .ok () := by
  rcases le_total w.triple v.triple with low | low
  · exact .inl (checkMinimum_eq_ok_iff.mpr ⟨v, w, readA, readB, low⟩)
  · exact .inr (checkMinimum_eq_ok_iff.mpr ⟨w, v, readB, readA, low⟩)

theorem checkMinimum_both_iff {a b : String} :
    checkMinimum a b = .ok () ∧ checkMinimum b a = .ok () ↔
      ∃ v, parse a = .ok v ∧ parse b = .ok v := by
  constructor
  · rintro ⟨first, second⟩
    obtain ⟨v, w, readA, readB, low⟩ := checkMinimum_eq_ok_iff.mp first
    obtain ⟨w', v', readB', readA', high⟩ := checkMinimum_eq_ok_iff.mp second
    obtain rfl : v = v' := Except.ok.inj (readA.symm.trans readA')
    obtain rfl : w = w' := Except.ok.inj (readB.symm.trans readB')
    have same : v = w := triple_inj.mp (le_antisymm high low)
    exact ⟨v, readA, same ▸ readB⟩
  · rintro ⟨v, readA, readB⟩
    exact ⟨checkMinimum_eq_ok_iff.mpr ⟨v, v, readA, readB, le_rfl⟩,
      checkMinimum_eq_ok_iff.mpr ⟨v, v, readB, readA, le_rfl⟩⟩

theorem checkMinimum_of_raised {a a' minimum : String} {v v' : Version} (read : parse a = .ok v)
    (read' : parse a' = .ok v') (raised : v.Raised v')
    (passed : checkMinimum a minimum = .ok ()) : checkMinimum a' minimum = .ok () := by
  obtain ⟨u, w, readA, readM, low⟩ := checkMinimum_eq_ok_iff.mp passed
  obtain rfl : v = u := Except.ok.inj (read.symm.trans readA)
  have high : v.triple < v'.triple := triple_lt_iff.mpr raised
  exact checkMinimum_eq_ok_iff.mpr ⟨v', w, read', readM, low.trans high.le⟩

theorem mapError_checkMinimum_of_spells {a a' : String} {v : Version} (spelled : Spells a v)
    (spelled' : Spells a' v) (other : String) :
    (checkMinimum a other).mapError VersionError.reason =
        (checkMinimum a' other).mapError VersionError.reason ∧
      (checkMinimum other a).mapError VersionError.reason =
        (checkMinimum other a').mapError VersionError.reason := by
  have same : parse? a = parse? a' :=
    (parse?_eq_some_iff.mpr spelled).trans (parse?_eq_some_iff.mpr spelled').symm
  simp only [mapError_checkMinimum, same, and_self]

/-- The gate is the order of the three numbers, seen through all the ways in which versions are
    written. -/
theorem checkMinimum_total_preorder :
    (∀ actual minimum, checkMinimum actual minimum =
      match parse actual, parse minimum with
      | .error _, _ => .error (.unparsable actual)
      | .ok _, .error _ => .error (.unparsable minimum)
      | .ok v, .ok w =>
        if w.triple ≤ v.triple then .ok () else .error (.tooLow actual minimum)) ∧
    (∀ a v, parse a = .ok v → checkMinimum a a = .ok ()) ∧
    (∀ a b c, checkMinimum a b = .ok () → checkMinimum b c = .ok () →
      checkMinimum a c = .ok ()) ∧
    (∀ a b v w, parse a = .ok v → parse b = .ok w →
      checkMinimum a b = .ok () ∨ checkMinimum b a = .ok ()) ∧
    (∀ a b, checkMinimum a b = .ok () ∧ checkMinimum b a = .ok () ↔
      ∃ v, parse a = .ok v ∧ parse b = .ok v) ∧
    (∀ a a' minimum v v', parse a = .ok v → parse a' = .ok v' → v.Raised v' →
      checkMinimum a minimum = .ok () → checkMinimum a' minimum = .ok ()) ∧
    ∀ a a' other v, Spells a v → Spells a' v →
      (checkMinimum a other).mapError VersionError.reason =
        (checkMinimum a' other).mapError VersionError.reason ∧
      (checkMinimum other a).mapError VersionError.reason =
        (checkMinimum other a').mapError VersionError.reason := by
  refine ⟨checkMinimum_eq, ?_, ?_, ?_, ?_, ?_, ?_⟩
  · exact fun a v read => checkMinimum_self read
  · exact fun a b c first second => checkMinimum_trans first second
  · exact fun a b v w readA readB => checkMinimum_total readA readB
  · exact fun a b => checkMinimum_both_iff
  · exact fun a a' minimum v v' read read' raised passed =>
      checkMinimum_of_raised read read' raised passed
  · exact fun a a' other v spelled spelled' => mapError_checkMinimum_of_spells spelled spelled' other

theorem checkMinimum_total_preorder_highest :
    let highest := "v18446744073709551615.0.0+k3s1"
    let next := "18446744073709551614.7.0-rc.1"
    checkMinimum highest highest = .ok () ∧ checkMinimum highest "1.9.9" = .ok () ∧
      (checkMinimum highest "1.20").mapError VersionError.reason =
        (checkMinimum " 018446744073709551615.0.00" "1.20").mapError VersionError.reason ∧
      (checkMinimum highest next = .ok () ∨ checkMinimum next highest = .ok ()) := by
  intro highest next
  obtain ⟨-, self, trans, total, -, raise, spell⟩ := checkMinimum_total_preorder
  have readHighest : parse "v18446744073709551615.0.0+k3s1" =
      .ok ⟨18446744073709551615, 0, 0⟩ := rfl
  have readNext : parse "18446744073709551614.7.0-rc.1" =
      .ok ⟨18446744073709551614, 7, 0⟩ := rfl
  have readUntidy : parse " 018446744073709551615.0.00" =
      .ok ⟨18446744073709551615, 0, 0⟩ := rfl
  have above : checkMinimum "18446744073709551614.7.0-rc.1" "1.9.9" = .ok () := rfl
  have raised : (⟨18446744073709551614, 7, 0⟩ : Version).Raised ⟨18446744073709551615, 0, 0⟩ :=
    .inl (by decide)
  have passed : checkMinimum highest next = .ok () :=
    raise next highest next _ _ readNext readHighest raised (self next _ readNext)
  refine ⟨self highest _ readHighest, trans highest next "1.9.9" passed above, ?_,
    total highest next _ _ readHighest readNext⟩
  exact (spell highest _ "1.20" _ (parse_eq_ok_iff.mp readHighest)
    (parse_eq_ok_iff.mp readUntidy)).1

end ServingOperator.Version
