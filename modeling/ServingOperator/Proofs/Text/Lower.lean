import Mathlib
import ServingOperator.Text.Lower

namespace ServingOperator.Text

def SameInAscii (a b : String) : Prop := a.toList.map Char.toLower = b.toList.map Char.toLower

instance (a b : String) : Decidable (SameInAscii a b) := inferInstanceAs (Decidable (_ = _))

def isPlainSmall (c : Char) : Bool := 'a' ≤ c && c ≤ 'z' && c ≠ 'k'

theorem isPlainSmall_bounds {c : Char} (small : isPlainSmall c = true) :
    97 ≤ c.toNat ∧ c.toNat ≤ 122 ∧ c.toNat ≠ 107 := by
  simp only [isPlainSmall, Bool.and_eq_true, decide_eq_true_eq] at small
  obtain ⟨⟨above, below⟩, other⟩ := small
  refine ⟨above, below, fun same => other ?_⟩
  rw [← Char.ofNat_toNat c, same]

theorem toLower_of_not_capital {c : Char} (other : c.toNat < 65 ∨ 90 < c.toNat) :
    c.toLower = c := by
  refine Char.toLower_eq_of_not_isUpper fun capital => ?_
  simp only [Char.isUpper, decide_eq_true_eq] at capital
  have above : 65 ≤ c.toNat := capital.1
  have below : c.toNat ≤ 90 := capital.2
  omega

theorem lowerChar_of_ascii {c : Char} (ascii : c.toNat < 128) : lowerChar c = [c.toLower] := by
  have each : ∀ n < 128, lowerChar (Char.ofNat n) = [(Char.ofNat n).toLower] := by decide +kernel
  have own := each c.toNat ascii
  rwa [Char.ofNat_toNat] at own

/-- What the table gives for a character beyond ASCII is beyond ASCII too, or a k. -/
theorem caseRuns_leave : ∀ r ∈ caseRuns, r.last < 128 ∨
    (r.first = r.last ∧ (r.first + r.offset).toNat = 107) ∨ 128 ≤ r.first + r.offset := by
  decide +kernel

theorem lowerChar_beyond_ascii {c : Char} (beyond : 128 ≤ c.toNat) :
    ∃ x ∈ lowerChar c, isPlainSmall x = false := by
  suffices leaves : ∃ x ∈ lowerChar c, ¬(97 ≤ x.toNat ∧ x.toNat ≤ 122 ∧ x.toNat ≠ 107) by
    obtain ⟨x, member, other⟩ := leaves
    exact ⟨x, member, Bool.eq_false_iff.mpr fun small => other (isPlainSmall_bounds small)⟩
  unfold lowerChar
  split
  · exact ⟨'\u0307', by simp, by decide⟩
  split
  · rename_i r found
    refine ⟨_, List.mem_singleton_self _, ?_⟩
    have covers := List.find?_some found
    simp only [CaseRun.covers, Bool.and_eq_true, decide_eq_true_eq] at covers
    obtain ⟨⟨first, last⟩, -⟩ := covers
    -- A number that stands for no character becomes the null character, which is no letter either.
    have value := ite_eq_or_eq (c.toNat + r.offset).toNat.isValidChar (c.toNat + r.offset).toNat 0
    rw [← Char.toNat_ofNat] at value
    rcases caseRuns_leave r (List.mem_of_find?_eq_some found) with within | ⟨single, kelvin⟩ | above
    · omega
    · have same : c.toNat = r.first := by omega
      rw [same] at value ⊢
      omega
    · omega
  · exact ⟨c, List.mem_singleton_self c, by omega⟩

theorem flatMap_lowerChar_eq_iff {word : List Char} (small : ∀ x ∈ word, isPlainSmall x = true)
    (cs : List Char) : cs.flatMap lowerChar = word ↔ cs.map Char.toLower = word := by
  induction cs generalizing word with
  | nil => rfl
  | cons c cs ih =>
    by_cases ascii : c.toNat < 128
    · rw [List.flatMap_cons, List.map_cons, lowerChar_of_ascii ascii]
      cases word with
      | nil => simp
      | cons x word =>
        simp only [List.singleton_append, List.cons.injEq]
        rw [ih fun y member => small y (List.mem_cons_of_mem _ member)]
    · -- Neither side can be the word, in which nothing is beyond ASCII.
      obtain ⟨x, member, other⟩ := lowerChar_beyond_ascii (Nat.not_lt.mp ascii)
      have own : c.toLower = c := toLower_of_not_capital (by omega)
      constructor
      · rintro rfl
        rw [small x (List.mem_flatMap.mpr ⟨c, List.mem_cons_self, member⟩)] at other
        cases other
      · rintro rfl
        have bounds := isPlainSmall_bounds (small _ (List.mem_map_of_mem List.mem_cons_self))
        rw [own] at bounds
        omega

theorem lower_eq_iff {word : String} (small : word.toList.all isPlainSmall = true)
    (text : String) : lower text = word ↔ SameInAscii text word := by
  have each := List.all_eq_true.mp small
  have unchanged : word.toList.map Char.toLower = word.toList := by
    refine (List.map_congr_left fun c member => ?_).trans (List.map_id _)
    have bounds := isPlainSmall_bounds (each c member)
    exact toLower_of_not_capital (by omega)
  rw [SameInAscii, unchanged, ← flatMap_lowerChar_eq_iff each, lower]
  exact ⟨fun same => same ▸ String.toList_ofList.symm, fun same => same ▸ String.ofList_toList⟩

end ServingOperator.Text
