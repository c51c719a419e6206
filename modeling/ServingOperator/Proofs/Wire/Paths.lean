import ServingOperator.Proofs.Json.MergePatch
import ServingOperator.Proofs.Wire.Dicts
import ServingOperator.Proofs.Wire.RoundTrip

namespace ServingOperator

variable {α β : Type} {path : List String} {value? : Option Json}

namespace Member

def Gives (member : Member α) (a : α) (path : List String) (value? : Option Json) : Prop :=
  match member.encode? a with
  | none => value? = none
  | some j => j.Gives path value?

theorem gives_defaulted {format : Format α} {value a : α} {omitted : α → Bool}
    {omitted_eq : ∀ a, omitted a = true → a = value} (left : omitted a = true → value? = none)
    (written : omitted a = false → (format.encode a).Gives path value?) :
    (Member.defaulted format value omitted omitted_eq).Gives a path value? := by
  have encoded : (Member.defaulted format value omitted omitted_eq).encode? a =
      if omitted a = true then none else some (format.encode a) := rfl
  unfold Member.Gives
  rw [encoded]
  cases h : omitted a with
  | true => exact left h
  | false => exact written h

theorem gives_optional {format : Format α} {a? : Option α} (left : a? = none → value? = none)
    (written : ∀ a, a? = some a → (format.encode a).Gives path value?) :
    (Member.optional format).Gives a? path value? := by
  cases a? with
  | none => exact left rfl
  | some a => exact written a rfl

theorem encode?_ne_null {member : Member α} {a : α} {j : Json} (h : member.encode? a = some j) :
    j ≠ .null := by
  match α, member, a with
  | _, .required format, a =>
    obtain rfl := Option.some.inj h
    exact format.encode_ne_null a
  | _, .defaulted format value omitted omitted_eq, a =>
    have h : (if omitted a = true then none else some (format.encode a)) = some j := h
    split at h
    · cases h
    · obtain rfl := Option.some.inj h
      exact format.encode_ne_null a
  | _, .optional format, a =>
    obtain ⟨b, rfl, rfl⟩ := Option.map_eq_some_iff.mp h
    exact format.encode_ne_null b

end Member

theorem Fields.At.occurrences {fields : Fields α} {key : String} {member : Member β} {get : α → β}
    {set : β → α → α} (place : fields.At key member get set) {members : List (String × Json)}
    {a : α} (written : fields.WrittenIn members a) :
    Json.occurrences key members = (member.encode? (get a)).toList := by
  induction place with
  | head fresh => exact written.1
  | tail differ later ih => exact ih written.2

namespace Format

theorem get?_encode_record {fields : Fields α} {key : String} {member : Member β} {get : α → β}
    {set : β → α → α} (place : fields.At key member get set) {constants : List (String × String)}
    (keys : (constants.map (·.1) ++ fields.keys).Nodup) {repeats : Repeats} (a : α) :
    ((Format.record repeats constants fields).encode a).get? key = member.encode? (get a) := by
  have here := place.occurrences (Fields.writtenIn_constants keys a)
  rw [Format.encode, Json.get?, here]
  cases member.encode? (get a) <;> rfl

theorem gives_record {fields : Fields α} {key : String} {member : Member β} {get : α → β}
    {set : β → α → α} (place : fields.At key member get set) {constants : List (String × String)}
    (keys : (constants.map (·.1) ++ fields.keys).Nodup) {repeats : Repeats} {a : α}
    (h : member.Gives (get a) path value?) :
    ((Format.record repeats constants fields).encode a).Gives (key :: path) value? := by
  have here := place.occurrences (Fields.writtenIn_constants keys a)
  rw [Format.encode]
  unfold Member.Gives at h
  cases written : member.encode? (get a) with
  | none =>
    rw [written] at here h
    subst h
    exact .absent here
  | some j =>
    rw [written] at here h
    exact .under here (Member.encode?_ne_null written) h

theorem gives_dict {item : Format α} {m : StringMap α} {key : String}
    (absent : m.get? key = none → value? = none)
    (present : ∀ a, m.get? key = some a → (item.encode a).Gives path value?) :
    ((Format.dict item).encode m).Gives (key :: path) value? := by
  have here := m.occurrences_entries item.encode key
  rw [Format.encode]
  cases found : m.get? key with
  | none =>
    rw [found] at here
    rw [absent found]
    exact .absent here
  | some a =>
    rw [found] at here
    exact .under here (item.encode_ne_null a) (present a found)

end Format

end ServingOperator
