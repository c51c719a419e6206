import ServingOperator.Proofs.Json.MergePatch
import ServingOperator.Wire.Format

namespace ServingOperator

namespace Json

theorem single?_eq {key : String} {members : List (String × Json)} {j? : Option Json}
    (h : occurrences key members = j?.toList) : single? key members = some j? := by
  unfold single?
  rw [h]
  cases j? <;> rfl

theorem occurrences_of_single? {key : String} {members : List (String × Json)} {j? : Option Json}
    (h : single? key members = some j?) : occurrences key members = j?.toList := by
  unfold single? at h
  split at h
  · rename_i none_found
    cases h
    exact none_found
  · rename_i one_found
    cases h
    exact one_found
  · cases h

theorem get?_of_single? {key : String} {members : List (String × Json)} {j? : Option Json}
    (h : single? key members = some j?) : (obj members).get? key = j? := by
  rw [get?, occurrences_of_single? h]
  cases j? <;> rfl

theorem single?_putMember_self (key : String) (value : Json) (members : List (String × Json)) :
    single? key (putMember key value members) = some (some value) := by
  apply single?_eq
  rw [occurrences_putMember, if_pos rfl]
  rfl

theorem single?_putMember_of_ne {key other : String} (h : key ≠ other) (value : Json)
    (members : List (String × Json)) :
    single? other (putMember key value members) = single? other members := by
  rw [single?, single?, occurrences_putMember, if_neg h]

end Json

namespace Fields

/-- A record keeps a member under a key, by its projection and its update. -/
inductive At : {α β : Type} → Fields α → String → Member β → (α → β) → (β → α → α) → Prop where
  | head {α β : Type} {key : String} {about : Option String} {member : Member α} {rest : Fields β}
      (fresh : key ∉ rest.keys) :
      At (.cons key about member rest) key member Prod.fst fun value a => (value, a.2)
  | tail {α β γ : Type} {key other : String} {about : Option String} {first : Member γ}
      {rest : Fields α} {member : Member β} {get : α → β} {set : β → α → α} (differ : key ≠ other)
      (later : At rest key member get set) :
      At (.cons other about first rest) key member (fun a => get a.2)
        fun value a => (a.1, set value a.2)

theorem decodeMembers_cons {α β : Type} {key : String} {about : Option String} {member : Member α}
    {rest : Fields β} {find : String → Option (Option Json)} {a : α × β} :
    (cons key about member rest).decodeMembers find = some a ↔
      (∃ j?, find key = some j? ∧ member.decode j? = some a.1) ∧
        rest.decodeMembers find = some a.2 := by
  obtain ⟨first, others⟩ := a
  simp only [decodeMembers, Option.bind_eq_bind, Option.bind_eq_some_iff, Option.pure_def,
    Option.some.injEq, Prod.mk.injEq]
  constructor
  · rintro ⟨j?, found, _, decoded, _, read, rfl, rfl⟩
    exact ⟨⟨j?, found, decoded⟩, read⟩
  · rintro ⟨⟨j?, found, decoded⟩, read⟩
    exact ⟨j?, found, first, decoded, others, read, rfl, rfl⟩

theorem decodeLast_cons {α β : Type} {key : String} {about : Option String} {member : Member α}
    {rest : Fields β} {members : List (String × Json)} {a : α × β} :
    (cons key about member rest).decodeLast members = some a ↔
      (∃ values, (Json.occurrences key members).mapM (fun j => member.decode (some j)) =
          some values ∧ values.getLast?.or (member.decode none) = some a.1) ∧
        rest.decodeLast members = some a.2 := by
  obtain ⟨first, others⟩ := a
  simp only [decodeLast, Option.bind_eq_bind, Option.bind_eq_some_iff, Option.pure_def,
    Option.some.injEq, Prod.mk.injEq]
  constructor
  · rintro ⟨values, found, _, decoded, _, read, rfl, rfl⟩
    exact ⟨⟨values, found, decoded⟩, read⟩
  · rintro ⟨⟨values, found, decoded⟩, read⟩
    exact ⟨values, found, first, decoded, others, read, rfl, rfl⟩

theorem decodeMembers_congr {α : Type} (fields : Fields α)
    {find find' : String → Option (Option Json)} (h : ∀ key ∈ fields.keys, find key = find' key) :
    fields.decodeMembers find = fields.decodeMembers find' := by
  match α, fields with
  | _, .nil => rfl
  | _, .cons key about member rest =>
    have here := h key List.mem_cons_self
    have there := decodeMembers_congr rest fun k found => h k (List.mem_cons_of_mem _ found)
    simp only [decodeMembers, here, there]

theorem decodeLast_congr {α : Type} (fields : Fields α) {members members' : List (String × Json)}
    (h : ∀ key ∈ fields.keys, Json.occurrences key members = Json.occurrences key members') :
    fields.decodeLast members = fields.decodeLast members' := by
  match α, fields with
  | _, .nil => rfl
  | _, .cons key about member rest =>
    have here := h key List.mem_cons_self
    have there := decodeLast_congr rest fun k found => h k (List.mem_cons_of_mem _ found)
    simp only [decodeLast, here, there]

theorem decodeMembers_put_other {α : Type} (fields : Fields α) {key : String}
    (absent : key ∉ fields.keys) (j : Json) (members : List (String × Json)) :
    fields.decodeMembers (fun k => Json.single? k (Json.putMember key j members)) =
      fields.decodeMembers (fun k => Json.single? k members) := by
  apply decodeMembers_congr
  intro k found
  have differ : key ≠ k := fun same => absent (same ▸ found)
  exact Json.single?_putMember_of_ne differ j members

theorem decodeLast_put_other {α : Type} (fields : Fields α) {key : String}
    (absent : key ∉ fields.keys) (j : Json) (members : List (String × Json)) :
    fields.decodeLast (Json.putMember key j members) = fields.decodeLast members := by
  apply decodeLast_congr
  intro k found
  have differ : key ≠ k := fun same => absent (same ▸ found)
  rw [Json.occurrences_putMember, if_neg differ]

namespace At

variable {α β : Type} {fields : Fields α} {key : String} {member : Member β} {get : α → β}
  {set : β → α → α}

theorem found (place : fields.At key member get set) {find : String → Option (Option Json)} {a : α}
    (read : fields.decodeMembers find = some a) :
    ∃ j?, find key = some j? ∧ member.decode j? = some (get a) := by
  induction place with
  | head fresh => exact (decodeMembers_cons.mp read).1
  | tail differ later ih => exact ih (decodeMembers_cons.mp read).2

theorem decodeMembers_put (place : fields.At key member get set)
    {members : List (String × Json)} {a : α} {j : Json} {value : β}
    (read : fields.decodeMembers (fun k => Json.single? k members) = some a)
    (decoded : member.decode (some j) = some value) :
    fields.decodeMembers (fun k => Json.single? k (Json.putMember key j members)) =
      some (set value a) := by
  induction place with
  | head fresh =>
    obtain ⟨-, others⟩ := decodeMembers_cons.mp read
    rw [decodeMembers_cons, decodeMembers_put_other _ fresh]
    exact ⟨⟨some j, Json.single?_putMember_self _ j members, decoded⟩, others⟩
  | tail differ later ih =>
    obtain ⟨first, others⟩ := decodeMembers_cons.mp read
    rw [decodeMembers_cons, Json.single?_putMember_of_ne differ]
    exact ⟨first, ih others decoded⟩

theorem decodeLast_put (place : fields.At key member get set)
    {members : List (String × Json)} {a : α} {j : Json} {value : β}
    (read : fields.decodeLast members = some a) (decoded : member.decode (some j) = some value) :
    fields.decodeLast (Json.putMember key j members) = some (set value a) := by
  induction place with
  | head fresh =>
    obtain ⟨-, others⟩ := decodeLast_cons.mp read
    rw [decodeLast_cons, decodeLast_put_other _ fresh, Json.occurrences_putMember, if_pos rfl]
    exact ⟨⟨[value], by simp [decoded], rfl⟩, others⟩
  | tail differ later ih =>
    obtain ⟨first, others⟩ := decodeLast_cons.mp read
    rw [decodeLast_cons, Json.occurrences_putMember, if_neg differ]
    exact ⟨first, ih others decoded⟩

end At

end Fields

end ServingOperator
