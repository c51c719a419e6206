import ServingOperator.Proofs.Text
import ServingOperator.Version

namespace ServingOperator.Version

inductive Suffix where
  | none
  | preRelease (label : List Char)
  | build (label : List Char)

def Suffix.text : Suffix → List Char
  | none => []
  | preRelease label => '-' :: label
  | build label => '+' :: label

/-- A version as it is written, without blanks around it. -/
structure Spelling where
  marked : Bool
  major : Text.Numeral UInt64.size
  minor : Text.Numeral UInt64.size
  patch : Text.Numeral UInt64.size
  suffix : Suffix

namespace Spelling

def mark (s : Spelling) : List Char := if s.marked then ['v'] else []

def numbers (s : Spelling) : List Char :=
  s.major.digits ++ '.' :: (s.minor.digits ++ '.' :: s.patch.digits)

def text (s : Spelling) : List Char := s.mark ++ s.numbers ++ s.suffix.text

def version (s : Spelling) : Version :=
  ⟨.ofNatLT s.major.value s.major.fits, .ofNatLT s.minor.value s.minor.fits,
    .ofNatLT s.patch.value s.patch.fits⟩

end Spelling

def Spells (raw : String) (v : Version) : Prop :=
  ∃ s : Spelling, Text.IsTrimmed raw.toList s.text ∧ s.version = v

theorem component?_eq_some_iff {cs : List Char} {n : UInt64} :
    component? cs = some n ↔
      ∃ numeral : Text.Numeral UInt64.size, numeral.digits = cs ∧
        UInt64.ofNatLT numeral.value numeral.fits = n := by
  unfold component?
  rw [Option.map_eq_some_iff]
  constructor
  · rintro ⟨value, read, rfl⟩
    obtain ⟨numeral, digits, rfl⟩ := Text.natBelow?_eq_some_iff.mp read
    exact ⟨numeral, digits, UInt64.ofNatLT_eq_ofNat _⟩
  · rintro ⟨numeral, digits, rfl⟩
    exact ⟨numeral.value, Text.natBelow?_eq_some_iff.mpr ⟨numeral, digits, rfl⟩,
      (UInt64.ofNatLT_eq_ofNat _).symm⟩

theorem ofComponents?_eq_some_iff {parts : List (List Char)} {v : Version} :
    ofComponents? parts = some v ↔ ∃ a b c, parts = [a, b, c] ∧
      component? a = some v.major ∧ component? b = some v.minor ∧ component? c = some v.patch := by
  unfold ofComponents?
  split
  · simp only [List.cons.injEq, and_true, Option.bind_eq_bind, Option.pure_def,
      Option.bind_eq_some_iff, Option.some.injEq]
    constructor
    · rintro ⟨major, readMajor, minor, readMinor, patch, readPatch, rfl⟩
      exact ⟨_, _, _, ⟨rfl, rfl, rfl⟩, readMajor, readMinor, readPatch⟩
    · rintro ⟨_, _, _, ⟨rfl, rfl, rfl⟩, readMajor, readMinor, readPatch⟩
      exact ⟨_, readMajor, _, readMinor, _, readPatch, rfl⟩
  · rename_i other
    constructor
    · intro read
      cases read
    · rintro ⟨a, b, c, rfl, -⟩
      exact absurd rfl (other a b c)

theorem core_append_suffix {front : List Char} (plain : ∀ c ∈ front, c ≠ '+' ∧ c ≠ '-')
    (suffix : Suffix) : core (front ++ suffix.text) = front := by
  have noBuild : ∀ c ∈ front, (c != '+') = true := fun c member => by simp [(plain c member).1]
  have noLabel : ∀ c ∈ front, (c != '-') = true := fun c member => by simp [(plain c member).2]
  have unlabelled : front.takeWhile (· != '-') = front := List.takeWhile_eq_self_iff.mpr noLabel
  unfold core
  rw [List.takeWhile_append_of_pos noBuild]
  cases suffix with
  | none => simp [Suffix.text, unlabelled]
  | preRelease label => simp [Suffix.text, List.takeWhile_append_of_pos noLabel]
  | build label => simp [Suffix.text, unlabelled]

theorem takeWhile_ne (sep : Char) (cs : List Char) :
    cs.takeWhile (· != sep) = cs ∨ ∃ rest, cs = cs.takeWhile (· != sep) ++ sep :: rest := by
  induction cs with
  | nil => exact .inl rfl
  | cons c cs ih =>
    by_cases same : c = sep
    · subst same
      exact .inr ⟨cs, by simp⟩
    · rw [List.takeWhile_cons_of_pos (by simpa using same)]
      rcases ih with whole | ⟨rest, cut⟩
      · exact .inl (by rw [whole])
      · exact .inr ⟨rest, by rw [List.cons_append, ← cut]⟩

theorem exists_suffix (cs : List Char) : ∃ suffix : Suffix, cs = core cs ++ suffix.text := by
  unfold core
  rcases takeWhile_ne '-' (cs.takeWhile (· != '+')) with unlabelled | ⟨label, labelled⟩
  · rw [unlabelled]
    rcases takeWhile_ne '+' cs with whole | ⟨build, cut⟩
    · exact ⟨.none, by rw [whole]; exact (List.append_nil cs).symm⟩
    · exact ⟨.build build, cut⟩
  · -- A label reaches to the end of the text, whatever build mark comes up in it.
    have front : cs.takeWhile (· != '+') ++ cs.dropWhile (· != '+') = cs :=
      List.takeWhile_append_dropWhile
    exact ⟨.preRelease (label ++ cs.dropWhile (· != '+')), by
      conv_lhs => rw [← front, labelled]
      simp [Suffix.text]⟩

theorem withoutMark_of_ne {c : Char} (h : c ≠ 'v') (cs : List Char) :
    withoutMark (c :: cs) = c :: cs := by
  unfold withoutMark
  split
  · rename_i same
    exact absurd (List.cons.inj same).1 h
  · rfl

theorem exists_mark (cs : List Char) :
    ∃ marked : Bool, cs = (if marked then ['v'] else []) ++ withoutMark cs := by
  unfold withoutMark
  split
  · exact ⟨true, rfl⟩
  · exact ⟨false, rfl⟩

namespace Spelling

theorem mem_numbers {s : Spelling} {c : Char} (member : c ∈ s.numbers) :
    c.isDigit = true ∨ c = '.' := by
  simp only [numbers, List.mem_append, List.mem_cons] at member
  rcases member with h | h | h | h | h
  · exact .inl (s.major.isDigit_of_mem h)
  · exact .inr h
  · exact .inl (s.minor.isDigit_of_mem h)
  · exact .inr h
  · exact .inl (s.patch.isDigit_of_mem h)

theorem splitAt_numbers (s : Spelling) :
    Text.splitAt '.' s.numbers = [s.major.digits, s.minor.digits, s.patch.digits] := by
  rw [numbers, Text.splitAt_append (s.major.not_mem (by decide)),
    Text.splitAt_append (s.minor.not_mem (by decide)),
    Text.splitAt_of_not_mem (s.patch.not_mem (by decide))]

theorem core_numbers (s : Spelling) : core (s.numbers ++ s.suffix.text) = s.numbers := by
  refine core_append_suffix (fun c member => ?_) s.suffix
  rcases mem_numbers member with digit | rfl
  · constructor <;> rintro rfl <;> exact absurd digit (by decide)
  · decide

theorem withoutMark_text (s : Spelling) : withoutMark s.text = s.numbers ++ s.suffix.text := by
  rw [text, mark, List.append_assoc]
  cases marked : s.marked with
  | true => rfl
  | false =>
    obtain ⟨c, cs, digits⟩ := List.exists_cons_of_ne_nil s.major.nonempty
    have differ : c ≠ 'v' := by
      rintro rfl
      exact s.major.not_mem (by decide) (digits ▸ List.mem_cons_self)
    rw [numbers, digits]
    exact withoutMark_of_ne differ _

end Spelling

theorem read_eq_some_iff {cs : List Char} {v : Version} :
    ofComponents? (Text.splitAt '.' (core (withoutMark cs))) = some v ↔
      ∃ s : Spelling, s.text = cs ∧ s.version = v := by
  constructor
  · intro read
    obtain ⟨a, b, c, split, readMajor, readMinor, readPatch⟩ := ofComponents?_eq_some_iff.mp read
    obtain ⟨major, rfl, isMajor⟩ := component?_eq_some_iff.mp readMajor
    obtain ⟨minor, rfl, isMinor⟩ := component?_eq_some_iff.mp readMinor
    obtain ⟨patch, rfl, isPatch⟩ := component?_eq_some_iff.mp readPatch
    obtain ⟨afterMajor, first, splitMinor⟩ := Text.eq_append_of_splitAt_cons split
    obtain ⟨afterMinor, rfl, splitPatch⟩ := Text.eq_append_of_splitAt_cons splitMinor
    obtain rfl := Text.eq_of_splitAt_singleton splitPatch
    obtain ⟨suffix, back⟩ := exists_suffix (withoutMark cs)
    obtain ⟨marked, front⟩ := exists_mark cs
    refine ⟨⟨marked, major, minor, patch, suffix⟩, ?_, ?_⟩
    · rw [front, back, first]
      exact List.append_assoc _ _ _
    · cases v
      exact congr (congrArg₂ Version.mk isMajor isMinor) isPatch
  · rintro ⟨s, rfl, rfl⟩
    rw [s.withoutMark_text, s.core_numbers, s.splitAt_numbers]
    exact ofComponents?_eq_some_iff.mpr ⟨_, _, _, rfl, component?_eq_some_iff.mpr ⟨_, rfl, rfl⟩,
      component?_eq_some_iff.mpr ⟨_, rfl, rfl⟩, component?_eq_some_iff.mpr ⟨_, rfl, rfl⟩⟩

theorem parse?_eq_some_iff {raw : String} {v : Version} : parse? raw = some v ↔ Spells raw v := by
  unfold parse? Spells
  simp only [read_eq_some_iff, Text.isTrimmed_iff]

theorem parse_eq_ok_iff {raw : String} {v : Version} : parse raw = .ok v ↔ Spells raw v := by
  rw [← parse?_eq_some_iff, parse]
  cases parse? raw <;> simp

theorem parse_eq_error_iff {raw : String} {e : VersionError} :
    parse raw = .error e ↔ e = .unparsable raw ∧ ∀ v, ¬Spells raw v := by
  simp only [← parse_eq_ok_iff]
  unfold parse
  cases parse? raw <;> simp [eq_comm]

theorem isBlank_of_isDigit {c : Char} (digit : c.isDigit = true) : Text.isBlank c = false := by
  simp only [Char.isDigit, Bool.and_eq_true, decide_eq_true_eq, ge_iff_le,
    UInt32.le_iff_toNat_le] at digit
  have low : 48 ≤ c.toNat := digit.1
  have high : c.toNat ≤ 57 := digit.2
  have apart : ∀ n ∈ Text.blanks, n < 48 ∨ 57 < n := by decide
  rw [Text.isBlank, List.contains_eq_mem, decide_eq_false_iff_not]
  intro member
  have := apart _ member
  omega

namespace Spelling

theorem not_isBlank {s : Spelling} {c : Char} (member : c ∈ s.mark ++ s.numbers) :
    Text.isBlank c = false := by
  rcases List.mem_append.mp member with marked | number
  · have isMark : c = 'v' := by
      unfold mark at marked
      split at marked <;> simp_all
    rw [isMark]
    decide
  · rcases mem_numbers number with digit | rfl
    · exact isBlank_of_isDigit digit
    · decide

theorem mark_numbers_ne_nil (s : Spelling) : s.mark ++ s.numbers ≠ [] := by
  simp [numbers]

end Spelling

theorem Suffix.exists_trimmed (suffix : Suffix) {after : List Char} (blank : after.all Text.isBlank) :
    ∃ rest : Suffix, rest.text = (suffix.text ++ after).rdropWhile Text.isBlank := by
  cases suffix with
  | none =>
    refine ⟨.none, (List.rdropWhile_eq_nil_iff.mpr ?_).symm⟩
    exact List.all_eq_true.mp blank
  | preRelease label =>
    have solid : ∀ c ∈ ['-'].getLast?, Text.isBlank c = false := by
      intro c last
      rw [← Option.some.inj last]
      decide
    exact ⟨.preRelease ((label ++ after).rdropWhile Text.isBlank),
      (Text.rdropWhile_append solid (label ++ after)).symm⟩
  | build label =>
    have solid : ∀ c ∈ ['+'].getLast?, Text.isBlank c = false := by
      intro c last
      rw [← Option.some.inj last]
      decide
    exact ⟨.build ((label ++ after).rdropWhile Text.isBlank),
      (Text.rdropWhile_append solid (label ++ after)).symm⟩

/-- Blanks may stand around a version. They may end its suffix, too, which then is another one. -/
theorem Spelling.spells (s : Spelling) {raw : String} {before after : List Char}
    (written : raw.toList = before ++ s.text ++ after) (blank : before.all Text.isBlank)
    (blank' : after.all Text.isBlank) : Spells raw s.version := by
  obtain ⟨rest, trimmed⟩ := s.suffix.exists_trimmed blank'
  refine ⟨{ s with suffix := rest }, Text.isTrimmed_iff.mpr ?_, rfl⟩
  have whole : raw.toList = before ++ (s.mark ++ s.numbers) ++ (s.suffix.text ++ after) := by
    rw [written, text]
    simp only [List.append_assoc]
  rw [whole, Text.trim_append blank s.mark_numbers_ne_nil
    (fun c first => not_isBlank (List.mem_of_mem_head? first))
    (fun c last => not_isBlank (List.mem_of_mem_getLast? last)), ← trimmed]
  rfl

def Spelling.plain (v : Version) : Spelling where
  marked := false
  major := .ofNat v.major.toNat v.major.toNat_lt
  minor := .ofNat v.minor.toNat v.minor.toNat_lt
  patch := .ofNat v.patch.toNat v.patch.toNat_lt
  suffix := .none

theorem Spelling.version_plain (v : Version) : (plain v).version = v := by
  simp [version, plain, Text.Numeral.value_ofNat]

theorem Spelling.text_plain (v : Version) : (plain v).text = v.text.toList := by
  simp [text, mark, numbers, plain, Text.Numeral.ofNat, Suffix.text, Version.text]

/-- A text is read as a version exactly if it is one in the grammar, and else refused as it is. The
    text of a version is read back, and of all that is written only the three numbers count. -/
theorem parse_accepts_grammar :
    (∀ raw v, parse raw = .ok v ↔
      ∃ s : Spelling, Text.IsTrimmed raw.toList s.text ∧ s.version = v) ∧
    (∀ raw e, parse raw = .error e ↔ e = .unparsable raw ∧
      ¬∃ s : Spelling, Text.IsTrimmed raw.toList s.text) ∧
    (∀ v : Version, parse v.text = .ok v) ∧
    ∀ (s : Spelling) (marked : Bool) (suffix : Suffix) (before after : List Char),
      before.all Text.isBlank → after.all Text.isBlank →
      parse (String.ofList (before ++ { s with marked, suffix }.text ++ after)) = .ok s.version := by
  refine ⟨fun raw v => parse_eq_ok_iff, fun raw e => ?_, fun v => ?_, ?_⟩
  · rw [parse_eq_error_iff]
    refine and_congr_right fun _ => ⟨?_, ?_⟩
    · rintro none ⟨s, trimmed⟩
      exact none _ ⟨s, trimmed, rfl⟩
    · rintro none v ⟨s, trimmed, -⟩
      exact none ⟨s, trimmed⟩
  · have written : v.text.toList = [] ++ (Spelling.plain v).text ++ [] := by
      simp [Spelling.text_plain]
    have spelled := (Spelling.plain v).spells written rfl rfl
    rwa [Spelling.version_plain, ← parse_eq_ok_iff] at spelled
  · intro s marked suffix before after blank blank'
    rw [parse_eq_ok_iff]
    exact Spelling.spells { s with marked, suffix } String.toList_ofList blank blank'

theorem parse_accepts_grammar_untidy :
    [' ', '\t'].all Text.isBlank ∧ ['\u3000'].all Text.isBlank ∧
      parse " \tv1.020.3-rc.1+7\u3000" = .ok ⟨1, 20, 3⟩ := by
  have blank : [' ', '\t'].all Text.isBlank := by decide
  have blank' : ['\u3000'].all Text.isBlank := by decide
  let s : Spelling :=
    { marked := false
      major := ⟨['1'], by decide, by decide, by decide⟩
      minor := ⟨['0', '2', '0'], by decide, by decide, by decide⟩
      patch := ⟨['3'], by decide, by decide, by decide⟩
      suffix := .none }
  have read := parse_accepts_grammar.2.2.2 s true (.preRelease "rc.1+7".toList) [' ', '\t']
    ['\u3000'] blank blank'
  exact ⟨blank, blank', read⟩

end ServingOperator.Version
