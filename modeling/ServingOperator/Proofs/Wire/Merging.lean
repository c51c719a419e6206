import ServingOperator.Proofs.Wire.Dicts
import ServingOperator.Proofs.Wire.RoundTrip
import ServingOperator.Wire.Format

namespace ServingOperator

/-- A member is read from the values of its key, of which there is one at most. -/
def Member.ReadFrom {α : Type} (member : Member α) (js : List Json) (a : α) : Prop :=
  ∃ j?, js = j?.toList ∧ member.decode j? = some a

mutual

/-- What a document is read as once `new` was merged into it. -/
def Format.MergedAs : {α : Type} → Format α → (new : α) → Json → (result : α) → Prop
  | _, .dict item => fun new j result => ∀ key,
    match new.get? key with
    | some a => ∃ b, result.get? key = some b ∧
      item.MergedAs a ((Json.occurrences key j.members).getLast?.getD .null) b
    | none => ∃ values,
      (Json.occurrences key j.members).mapM (fun j => item.decode j) = some values ∧
        result.get? key = values.getLast?
  | _, .record _ _ fields => fun new j result => fields.MergedAs new j.members result
  | _, .image inner build parts _ => fun new j result =>
    ∃ b, build b = result ∧ inner.MergedAs (parts new) j b
  | _, .described _ inner => fun new j result => inner.MergedAs new j result
  | _, .text | _, .flag | _, .int32 | _, .int64 | _, .quantity | _, .portRef | _, .timestamp
  | _, .choice _ _ _ | _, .list _ => fun new _ result => result = new

def Member.MergedAs : {α : Type} → Member α → (new : α) → List Json → (result : α) → Prop
  | _, .required format => fun new js result =>
    format.MergedAs new (js.getLast?.getD .null) result
  | _, .defaulted format value omitted omitted_eq => fun new js result =>
    if omitted new then (Member.defaulted format value omitted omitted_eq).ReadFrom js result
    else format.MergedAs new (js.getLast?.getD .null) result
  | _, .optional format => fun new js result =>
    match new with
    | none => (Member.optional format).ReadFrom js result
    | some new => ∃ a, result = some a ∧ format.MergedAs new (js.getLast?.getD .null) a

def Fields.MergedAs : {α : Type} → Fields α → (new : α) → List (String × Json) → (result : α) → Prop
  | _, .nil => fun _ _ _ => True
  | _, .cons key _ member rest => fun new members result =>
    member.MergedAs new.1 (Json.occurrences key members) result.1 ∧
      rest.MergedAs new.2 members result.2

end

section

variable {α : Type} {format : Format α} {value : α} {omitted : α → Bool}
  {omitted_eq : ∀ a, omitted a = true → a = value} {new result : α} {js : List Json}

theorem Member.mergedAs_of_omitted (left : omitted new = true) :
    (Member.defaulted format value omitted omitted_eq).MergedAs new js result ↔
      (Member.defaulted format value omitted omitted_eq).ReadFrom js result :=
  iff_of_eq (if_pos left)

theorem Member.mergedAs_of_written (written : omitted new = false) :
    (Member.defaulted format value omitted omitted_eq).MergedAs new js result ↔
      format.MergedAs new (js.getLast?.getD .null) result :=
  iff_of_eq (if_neg (Bool.not_eq_true _ ▸ written))

end

theorem Format.decode_mergeInto_leaf {α : Type} {format : Format α}
    (distinct : format.hasDistinctKeys) {new result : α}
    (leaf : ∀ changes, format.encode new ≠ .obj changes) (same : result = new) (j : Json) :
    format.decode ((format.encode new).mergeInto j) = some result := by
  rw [same, Json.mergeInto_leaf leaf]
  exact format.decode_encode distinct new

theorem Member.readFrom_orNull {α : Type} (format : Format α) (distinct : format.hasDistinctKeys)
    (leaf : ∀ a changes, format.encode a ≠ .obj changes) (a? : Option α) (js : List Json) :
    (Member.optional format).ReadFrom
      (Json.replaced (some ((a?.map fun a => format.encode a).getD .null)) js) a? := by
  cases a? with
  | none => exact ⟨none, rfl, rfl⟩
  | some a =>
    have written := format.encode_ne_null a
    refine ⟨some (format.encode a), Json.replaced_leaf written (leaf a) js, ?_⟩
    rw [Member.decode]
    simp only [Json.orNull?_of_ne written, format.decode_encode distinct a, Option.map_some]

mutual

theorem Format.decode_mergeInto {α : Type} (format : Format α) (distinct : format.hasDistinctKeys)
    {new result : α} {j : Json} (h : format.MergedAs new j result) :
    format.decode ((format.encode new).mergeInto j) = some result := by
  match α, format, new, result, h with
  | _, .text, new, _, same | _, .flag, new, _, same | _, .int32, new, _, same
  | _, .int64, new, _, same | _, .quantity, new, _, same | _, .timestamp, new, _, same =>
    exact Format.decode_mergeInto_leaf distinct (by simp [Format.encode]) same j
  | _, .portRef, new, _, same =>
    exact Format.decode_mergeInto_leaf distinct (by cases new <;> simp [Format.encode]) same j
  | _, .choice all name complete, new, _, same =>
    exact Format.decode_mergeInto_leaf distinct (by simp [Format.encode]) same j
  | _, .list item, new, _, same =>
    exact Format.decode_mergeInto_leaf distinct (by simp [Format.encode]) same j
  | _, .dict item, new, result, h =>
    rw [Format.hasDistinctKeys] at distinct
    rw [Format.encode, Json.mergeInto, Format.decode_dict]
    intro key
    rw [Json.occurrences_mergeMembers (new.occurrences_entries (fun a => item.encode a) key)]
    have here := h key
    cases found : new.get? key with
    -- A key that is not written keeps its values, as `here` says.
    | none =>
      rw [found] at here
      exact here
    | some a =>
      rw [found] at here
      obtain ⟨b, given, merged⟩ := here
      rw [Option.map_some, Json.replaced_of_ne (item.encode_ne_null a)]
      refine ⟨[b], ?_, given⟩
      simp only [List.mapM_cons, Format.decode_mergeInto item distinct merged]
      rfl
  | _, .record repeats constants fields, new, result, h =>
    rw [Format.hasDistinctKeys, Bool.and_eq_true, decide_eq_true_eq] at distinct
    have read := Fields.readFrom_mergeMembers fields distinct.2
      (Fields.writtenIn_constants distinct.1 new) h
    rw [Format.encode, Json.mergeInto]
    cases repeats with
    | refused =>
      rw [Format.decode]
      exact fields.decodeMembers_of_readFrom read
    | lastCounts =>
      rw [Format.decode]
      exact fields.decodeLast_of_readFrom read
  | _, .image inner build parts build_parts, new, result, h =>
    rw [Format.hasDistinctKeys] at distinct
    obtain ⟨b, rfl, merged⟩ := h
    rw [Format.encode, Format.decode]
    simp only [Format.decode_mergeInto inner distinct merged, Option.map_some]
  | _, .described about inner, new, result, h =>
    rw [Format.hasDistinctKeys] at distinct
    rw [Format.encode, Format.decode]
    exact Format.decode_mergeInto inner distinct h

theorem Member.readFrom_replaced {α : Type} (member : Member α) (distinct : member.hasDistinctKeys)
    {new result : α} {js : List Json} (h : member.MergedAs new js result) :
    member.ReadFrom (Json.replaced (member.encode? new) js) result := by
  match α, member, new, result, h with
  | _, .required format, new, result, h =>
    rw [Member.hasDistinctKeys] at distinct
    rw [Member.encode?, Json.replaced_of_ne (format.encode_ne_null new)]
    exact ⟨some _, rfl, Format.decode_mergeInto format distinct h⟩
  | _, .defaulted format value omitted omitted_eq, new, result, h =>
    rw [Member.hasDistinctKeys] at distinct
    rw [Member.encode?]
    cases left : omitted new with
    | true =>
      rw [Member.mergedAs_of_omitted left] at h
      simp only [left, if_true, Json.replaced]
      exact h
    | false =>
      rw [Member.mergedAs_of_written left] at h
      simp only [left, Bool.false_eq_true, if_false,
        Json.replaced_of_ne (format.encode_ne_null new)]
      exact ⟨some _, rfl, Format.decode_mergeInto format distinct h⟩
  | _, .optional format, none, result, h => exact h
  | _, .optional format, some new, result, h =>
    rw [Member.hasDistinctKeys] at distinct
    obtain ⟨a, rfl, merged⟩ := h
    have written : (Member.optional format).encode? (some new) = some (format.encode new) := rfl
    rw [written, Json.replaced_of_ne (format.encode_ne_null new)]
    refine ⟨some _, rfl, ?_⟩
    have present := Json.mergeInto_ne_null (format.encode_ne_null new) (js.getLast?.getD .null)
    rw [Member.decode]
    simp only [Json.orNull?_of_ne present, Format.decode_mergeInto format distinct merged,
      Option.map_some]

theorem Fields.readFrom_mergeMembers {α : Type} (fields : Fields α)
    (distinct : fields.hasDistinctKeys) {changes members : List (String × Json)} {new result : α}
    (written : fields.WrittenIn changes new) (h : fields.MergedAs new members result) :
    fields.ReadFrom (Json.mergeMembers changes members) result := by
  match α, fields, new, result, h with
  | _, .nil, _, _, _ => trivial
  | _, .cons key about member rest, new, result, h =>
    rw [Fields.hasDistinctKeys, Bool.and_eq_true] at distinct
    obtain ⟨own, others⟩ := written
    obtain ⟨merged, later⟩ := h
    constructor
    · rw [Json.occurrences_mergeMembers own]
      exact Member.readFrom_replaced member distinct.1 merged
    · exact Fields.readFrom_mergeMembers rest distinct.2 others later

end

mutual

theorem Format.mergedAs_fresh {α : Type} (format : Format α) (new : α) {j : Json}
    (fresh : j.members = []) : format.MergedAs new j new := by
  match α, format, new with
  | _, .text, _ | _, .flag, _ | _, .int32, _ | _, .int64, _ | _, .quantity, _ | _, .timestamp, _
  | _, .portRef, _ => rfl
  | _, .choice all name complete, _ => rfl
  | _, .list item, _ => rfl
  | _, .dict item, new =>
    intro key
    rw [fresh]
    cases found : new.get? key with
    | none => exact ⟨[], rfl, rfl⟩
    | some a => exact ⟨a, rfl, Format.mergedAs_fresh item a rfl⟩
  | _, .record repeats constants fields, new =>
    show fields.MergedAs new j.members new
    rw [fresh]
    exact Fields.mergedAs_fresh fields new
  | _, .image inner build parts build_parts, new =>
    exact ⟨parts new, build_parts new, Format.mergedAs_fresh inner (parts new) fresh⟩
  | _, .described about inner, new => exact Format.mergedAs_fresh inner new fresh

theorem Member.mergedAs_fresh {α : Type} (member : Member α) (new : α) :
    member.MergedAs new [] new := by
  match α, member, new with
  | _, .required format, new => exact Format.mergedAs_fresh format new rfl
  | _, .defaulted format value omitted omitted_eq, new =>
    cases left : omitted new with
    | true =>
      rw [Member.mergedAs_of_omitted left]
      exact ⟨none, rfl, congrArg some (omitted_eq new left).symm⟩
    | false =>
      rw [Member.mergedAs_of_written left]
      exact Format.mergedAs_fresh format new rfl
  | _, .optional format, none => exact ⟨none, rfl, rfl⟩
  | _, .optional format, some new => exact ⟨new, rfl, Format.mergedAs_fresh format new rfl⟩

theorem Fields.mergedAs_fresh {α : Type} (fields : Fields α) (new : α) :
    fields.MergedAs new [] new := by
  match α, fields, new with
  | _, .nil, _ => trivial
  | _, .cons key about member rest, new =>
    exact ⟨Member.mergedAs_fresh member new.1, Fields.mergedAs_fresh rest new.2⟩

end

mutual

/-- Everything that is written for `old` is written for `new` as well. -/
def Format.Grows : {α : Type} → Format α → (old new : α) → Prop
  | _, .dict item => fun old new =>
    ∀ key a, old.get? key = some a → ∃ b, new.get? key = some b ∧ item.Grows a b
  | _, .record repeats _ fields => fun old new => repeats = .refused ∧ fields.Grows old new
  | _, .image inner build parts _ => fun old new => ∀ a, build a = old → inner.Grows a (parts new)
  | _, .described _ inner => fun old new => inner.Grows old new
  | _, .text | _, .flag | _, .int32 | _, .int64 | _, .quantity | _, .portRef | _, .timestamp
  | _, .choice _ _ _ | _, .list _ => fun _ _ => True

def Member.Grows : {α : Type} → Member α → (old new : α) → Prop
  | _, .required format => fun old new => format.Grows old new
  | _, .defaulted format _ omitted _ => fun old new =>
    if omitted new then old = new else format.Grows old new
  | _, .optional format => fun old new =>
    ∀ a, old = some a → ∃ b, new = some b ∧ format.Grows a b

def Fields.Grows : {α : Type} → Fields α → (old new : α) → Prop
  | _, .nil => fun _ _ => True
  | _, .cons _ _ member rest => fun old new => member.Grows old.1 new.1 ∧ rest.Grows old.2 new.2

end

mutual

theorem Format.mergedAs_of_grows {α : Type} (format : Format α) {old new : α} {j : Json}
    (read : format.decode j = some old) (h : format.Grows old new) :
    format.MergedAs new j new := by
  match α, format, old, new, read, h with
  | _, .text, _, _, _, _ | _, .flag, _, _, _, _ | _, .int32, _, _, _, _ | _, .int64, _, _, _, _
  | _, .quantity, _, _, _, _ | _, .timestamp, _, _, _, _ | _, .portRef, _, _, _, _ => rfl
  | _, .choice all name complete, _, _, _, _ => rfl
  | _, .list item, _, _, _, _ => rfl
  | _, .dict item, old, new, read, h =>
    cases j with
    | obj members =>
      intro key
      obtain ⟨values, decoded, last⟩ := Format.decode_dict.mp read key
      have stored := last_of_mapM decoded
      cases found : new.get? key with
      | none =>
        -- A key that is not written was not there either, or it would have been kept.
        refine ⟨values, decoded, ?_⟩
        cases absent : old.get? key with
        | none => rw [← last, absent]
        | some a =>
          obtain ⟨b, kept, -⟩ := h key a absent
          rw [found] at kept
          cases kept
      | some b =>
        refine ⟨b, rfl, ?_⟩
        rcases stored with ⟨absent, -⟩ | ⟨j, a, present, value, decoded⟩
        · exact Format.mergedAs_fresh item b (by rw [Json.members, absent]; rfl)
        · obtain ⟨b', kept, grows⟩ := h key a (last.trans value)
          obtain rfl : b = b' := Option.some.inj (found.symm.trans kept)
          rw [Json.members, present]
          exact Format.mergedAs_of_grows item decoded grows
    | _ => cases read
  | _, .record repeats constants fields, old, new, read, h =>
    obtain ⟨rfl, grows⟩ := h
    cases j with
    | obj members => exact Fields.mergedAs_of_grows fields read grows
    -- Members that are given by position are all replaced.
    | arr items => exact Fields.mergedAs_fresh fields new
    | _ => cases read
  | _, .image inner build parts build_parts, old, new, read, h =>
    obtain ⟨a, decoded, built⟩ := Option.map_eq_some_iff.mp read
    exact ⟨parts new, build_parts new, Format.mergedAs_of_grows inner decoded (h a built)⟩
  | _, .described about inner, old, new, read, h => exact Format.mergedAs_of_grows inner read h

theorem Member.mergedAs_of_grows {α : Type} (member : Member α) {old new : α} {js : List Json}
    (read : member.ReadFrom js old) (h : member.Grows old new) : member.MergedAs new js new := by
  obtain ⟨j?, rfl, decoded⟩ := read
  match α, member, old, new, decoded, h with
  | _, .required format, old, new, decoded, h =>
    obtain ⟨j, rfl, decoded⟩ := Option.bind_eq_some_iff.mp decoded
    exact Format.mergedAs_of_grows format decoded h
  | _, .defaulted format value omitted omitted_eq, old, new, decoded, h =>
    rw [Member.Grows] at h
    cases left : omitted new with
    | true =>
      rw [left, if_pos rfl] at h
      rw [Member.mergedAs_of_omitted left]
      exact ⟨j?, rfl, h ▸ decoded⟩
    | false =>
      rw [left, if_neg Bool.false_ne_true] at h
      rw [Member.mergedAs_of_written left]
      cases j? with
      | none => exact Format.mergedAs_fresh format new rfl
      | some j => exact Format.mergedAs_of_grows format decoded h
  | _, .optional format, old, none, decoded, h =>
    cases old with
    | none => exact ⟨j?, rfl, decoded⟩
    | some a =>
      obtain ⟨b, given, -⟩ := h a rfl
      cases given
  | _, .optional format, old, some new, decoded, h =>
    refine ⟨new, rfl, ?_⟩
    cases j? with
    | none => exact Format.mergedAs_fresh format new rfl
    | some j =>
      by_cases null : j = .null
      · exact Format.mergedAs_fresh format new (by rw [null]; rfl)
      · have decoded : j.orNull? (fun j => format.decode j) = some old := decoded
        rw [Json.orNull?_of_ne null] at decoded
        obtain ⟨a, read, rfl⟩ := Option.map_eq_some_iff.mp decoded
        obtain ⟨b, given, grows⟩ := h a rfl
        obtain rfl : new = b := Option.some.inj given
        exact Format.mergedAs_of_grows format read grows

theorem Fields.mergedAs_of_grows {α : Type} (fields : Fields α) {old new : α}
    {members : List (String × Json)}
    (read : fields.decodeMembers (fun key => Json.single? key members) = some old)
    (h : fields.Grows old new) : fields.MergedAs new members new := by
  match α, fields, old, new, read, h with
  | _, .nil, _, _, _, _ => trivial
  | _, .cons key about member rest, old, new, read, h =>
    obtain ⟨⟨j?, found, decoded⟩, others⟩ := Fields.decodeMembers_cons.mp read
    have first : member.ReadFrom (Json.occurrences key members) old.1 :=
      ⟨j?, Json.occurrences_of_single? found, decoded⟩
    exact ⟨Member.mergedAs_of_grows member first h.1, Fields.mergedAs_of_grows rest others h.2⟩

end

theorem Member.mergedAs_textIfAny {old : String} {js : List Json}
    (read : Member.textIfAny.ReadFrom js old) (new : String) :
    Member.textIfAny.MergedAs new js (if new = "" then old else new) := by
  by_cases empty : new = ""
  · rw [if_pos empty]
    exact (if_pos (decide_eq_true empty)).mpr read
  · rw [if_neg empty]
    exact (if_neg (fun left => empty (of_decide_eq_true left))).mpr rfl

theorem Member.grows_dictIfAny {α : Type} {item : Format α} {old new : StringMap α}
    (grows : (Format.dict item).Grows old new) : (Member.dictIfAny item).Grows old new := by
  by_cases empty : new.isEmpty = true
  · exact (if_pos empty).mpr (StringMap.eq_of_isEmpty empty fun key a found =>
      (grows key a found).imp fun _ kept => kept.1)
  · exact (if_neg empty).mpr grows

end ServingOperator
