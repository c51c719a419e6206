import Mathlib.Data.List.DropRight
import ServingOperator.Text

namespace ServingOperator.Text

theorem splitAt_of_not_mem {sep : Char} {cs : List Char} (h : sep ∉ cs) : splitAt sep cs = [cs] := by
  induction cs with
  | nil => rfl
  | cons c cs ih =>
    simp only [List.mem_cons, not_or] at h
    obtain ⟨differ, absent⟩ := h
    rw [splitAt, if_neg (Ne.symm differ), ih absent]

theorem splitAt_append {sep : Char} {front : List Char} (h : sep ∉ front) (back : List Char) :
    splitAt sep (front ++ sep :: back) = front :: splitAt sep back := by
  induction front with
  | nil => rw [List.nil_append, splitAt, if_pos rfl]
  | cons c front ih =>
    simp only [List.mem_cons, not_or] at h
    obtain ⟨differ, absent⟩ := h
    rw [List.cons_append, splitAt, if_neg (Ne.symm differ), ih absent]

theorem splitAt_ne_nil (sep : Char) (cs : List Char) : splitAt sep cs ≠ [] := by
  by_cases member : sep ∈ cs
  · obtain ⟨front, back, rfl, absent⟩ := List.eq_append_cons_of_mem member
    rw [splitAt_append absent]
    exact List.cons_ne_nil _ _
  · rw [splitAt_of_not_mem member]
    exact List.cons_ne_nil _ _

theorem eq_of_splitAt_singleton {sep : Char} {cs part : List Char}
    (h : splitAt sep cs = [part]) : cs = part := by
  by_cases member : sep ∈ cs
  · obtain ⟨front, back, rfl, absent⟩ := List.eq_append_cons_of_mem member
    rw [splitAt_append absent] at h
    exact absurd (List.cons.inj h).2 (splitAt_ne_nil sep back)
  · rw [splitAt_of_not_mem member] at h
    exact (List.cons.inj h).1

theorem eq_append_of_splitAt_cons {sep : Char} {cs first second : List Char}
    {rest : List (List Char)} (h : splitAt sep cs = first :: second :: rest) :
    ∃ back, cs = first ++ sep :: back ∧ splitAt sep back = second :: rest := by
  by_cases member : sep ∈ cs
  · obtain ⟨front, back, rfl, absent⟩ := List.eq_append_cons_of_mem member
    rw [splitAt_append absent] at h
    obtain ⟨rfl, split⟩ := List.cons.inj h
    exact ⟨back, rfl, split⟩
  · rw [splitAt_of_not_mem member] at h
    cases h

structure IsTrimmed (text core : List Char) : Prop where
  cut : ∃ before after, text = before ++ core ++ after ∧ before.all isBlank ∧ after.all isBlank
  first : ∀ c ∈ core.head?, isBlank c = false
  last : ∀ c ∈ core.getLast?, isBlank c = false

theorem rdropWhile_append {p : Char → Bool} {front : List Char}
    (last : ∀ c ∈ front.getLast?, p c = false) (rest : List Char) :
    (front ++ rest).rdropWhile p = front ++ rest.rdropWhile p := by
  have kept : front.reverse.dropWhile p = front.reverse := by
    cases reversed : front.reverse with
    | nil => rfl
    | cons c cs =>
      have end_ : p c = false := last c (by rw [List.getLast?_eq_head?_reverse, reversed]; rfl)
      rw [List.dropWhile_cons_of_neg (by simp [end_])]
  rw [List.rdropWhile, List.reverse_append, List.dropWhile_append, kept, List.rdropWhile]
  cases dropped : rest.reverse.dropWhile p <;> simp

/-- Trimming takes nothing of a text behind a front that neither starts nor ends with a blank, but
    the blanks at the end. -/
theorem trim_append {before front : List Char} (blank : before.all isBlank) (ne : front ≠ [])
    (first : ∀ c ∈ front.head?, isBlank c = false)
    (last : ∀ c ∈ front.getLast?, isBlank c = false) (rest : List Char) :
    trim (before ++ front ++ rest) = front ++ rest.rdropWhile isBlank := by
  have started : (before ++ (front ++ rest)).dropWhile isBlank = front ++ rest := by
    rw [List.dropWhile_append_of_pos (List.all_eq_true.mp blank)]
    cases front with
    | nil => exact absurd rfl ne
    | cons c cs =>
      have solid : isBlank c = false := first c rfl
      rw [List.cons_append, List.dropWhile_cons_of_neg (by simp [solid])]
  rw [List.append_assoc, trim, started]
  exact rdropWhile_append last rest

theorem first_dropWhile (p : Char → Bool) (cs : List Char) :
    ∀ c ∈ (cs.dropWhile p).head?, p c = false := by
  intro c first
  have stopped := List.head?_dropWhile_not p cs
  rw [Option.mem_def.mp first] at stopped
  exact stopped

theorem isTrimmed_trim (text : List Char) : IsTrimmed text (trim text) := by
  have parts : (text.dropWhile isBlank).rdropWhile isBlank ++
      (text.dropWhile isBlank).rtakeWhile isBlank = text.dropWhile isBlank := by
    rw [List.rdropWhile, List.rtakeWhile, ← List.reverse_append,
      List.takeWhile_append_dropWhile, List.reverse_reverse]
  refine ⟨⟨text.takeWhile isBlank, (text.dropWhile isBlank).rtakeWhile isBlank, ?_, ?_, ?_⟩, ?_, ?_⟩
  · rw [List.append_assoc]
    show text = text.takeWhile isBlank ++ ((text.dropWhile isBlank).rdropWhile isBlank ++ _)
    rw [parts, List.takeWhile_append_dropWhile]
  · exact List.all_takeWhile
  · exact List.all_eq_true.mpr fun c member => List.mem_rtakeWhile_imp member
  · intro c first
    obtain ⟨cut, whole⟩ := List.rdropWhile_prefix isBlank (text.dropWhile isBlank)
    refine first_dropWhile isBlank text c ?_
    have first : ((text.dropWhile isBlank).rdropWhile isBlank).head? = some c := first
    rw [← whole, List.head?_append, first]
    rfl
  · intro c last
    refine first_dropWhile isBlank (text.dropWhile isBlank).reverse c ?_
    rwa [trim, List.getLast?_reverse] at last

theorem isTrimmed_iff {text core : List Char} : IsTrimmed text core ↔ core = trim text := by
  constructor
  · rintro ⟨⟨before, after, rfl, blank, blank'⟩, first, last⟩
    have ended : after.rdropWhile isBlank = [] :=
      List.rdropWhile_eq_nil_iff.mpr (List.all_eq_true.mp blank')
    by_cases empty : core = []
    · subst empty
      have all : ((before ++ [] ++ after).dropWhile isBlank) = [] := by
        rw [List.dropWhile_eq_nil_iff]
        simpa [or_imp, forall_and] using
          ⟨List.all_eq_true.mp blank, List.all_eq_true.mp blank'⟩
      rw [trim, all]
      rfl
    · rw [trim_append blank empty first last, ended, List.append_nil]
  · rintro rfl
    exact isTrimmed_trim text

structure Numeral (bound : Nat) where
  digits : List Char
  nonempty : digits ≠ []
  ascii : digits.all Char.isDigit
  fits : Nat.ofDigitChars 10 digits 0 < bound

namespace Numeral

variable {bound : Nat}

def value (n : Numeral bound) : Nat := Nat.ofDigitChars 10 n.digits 0

def ofNat (n : Nat) (fits : n < bound) : Numeral bound where
  digits := Nat.toDigits 10 n
  nonempty := Nat.toDigits_ne_nil
  ascii := List.all_eq_true.mpr fun _ member =>
    Nat.isDigit_of_mem_toDigits (by decide) (by decide) member
  fits := by rwa [Nat.ofDigitChars_ten_toDigits]

theorem value_ofNat (n : Nat) (fits : n < bound) : (ofNat n fits).value = n :=
  Nat.ofDigitChars_ten_toDigits

theorem isDigit_of_mem (n : Numeral bound) {c : Char} (member : c ∈ n.digits) : c.isDigit = true :=
  List.all_eq_true.mp n.ascii c member

theorem not_mem (n : Numeral bound) {c : Char} (other : c.isDigit = false) : c ∉ n.digits := by
  intro member
  rw [n.isDigit_of_mem member] at other
  cases other

end Numeral

theorem natBelow?_eq_some_iff {bound : Nat} {cs : List Char} {n : Nat} :
    natBelow? bound cs = some n ↔
      ∃ numeral : Numeral bound, numeral.digits = cs ∧ numeral.value = n := by
  unfold natBelow?
  constructor
  · intro read
    obtain ⟨⟨nonempty, ascii, fits⟩, same⟩ := Option.ite_none_right_eq_some.mp read
    exact ⟨⟨cs, nonempty, ascii, fits⟩, rfl, Option.some.inj same⟩
  · rintro ⟨numeral, rfl, rfl⟩
    exact if_pos ⟨numeral.nonempty, numeral.ascii, numeral.fits⟩

end ServingOperator.Text
