import ServingOperator.Proofs.StringMap
import ServingOperator.Proofs.Wire.RecordMembers
import ServingOperator.Wire.IngressFormat
import ServingOperator.Wire.RouteFormat
import ServingOperator.Wire.ServingFormat

namespace ServingOperator

mutual

def Format.hasDistinctKeys : {α : Type} → Format α → Bool
  | _, .list item => item.hasDistinctKeys
  | _, .dict item => item.hasDistinctKeys
  | _, .record _ constants fields =>
    decide (constants.map (·.1) ++ fields.keys).Nodup && fields.hasDistinctKeys
  | _, .image inner _ _ _ => inner.hasDistinctKeys
  | _, .described _ inner => inner.hasDistinctKeys
  | _, .text | _, .flag | _, .int32 | _, .int64 | _, .quantity | _, .portRef | _, .timestamp
  | _, .choice _ _ _ => true

def Member.hasDistinctKeys : {α : Type} → Member α → Bool
  | _, .required format => format.hasDistinctKeys
  | _, .defaulted format _ _ _ => format.hasDistinctKeys
  | _, .optional format => format.hasDistinctKeys

def Fields.hasDistinctKeys : {α : Type} → Fields α → Bool
  | _, .nil => true
  | _, .cons _ _ member rest => member.hasDistinctKeys && rest.hasDistinctKeys

end

/-- Nothing is written as null, which is how absence is written. -/
theorem Format.encode_ne_null {α : Type} (format : Format α) (a : α) :
    format.encode a ≠ .null := by
  match α, format, a with
  | _, .text, a | _, .flag, a | _, .int32, a | _, .int64, a | _, .quantity, a | _, .timestamp, a
  | _, .choice _ _ _, a | _, .list _, a | _, .dict _, a | _, .record _ _ _, a =>
    intro h
    simp [Format.encode] at h
  | _, .portRef, port => cases port <;> simp [Format.encode]
  | _, .image inner build parts build_parts, a =>
    rw [Format.encode]
    exact encode_ne_null inner (parts a)
  | _, .described about inner, a =>
    rw [Format.encode]
    exact encode_ne_null inner a

theorem Json.orNull?_of_ne {α : Type} {j : Json} (h : j ≠ .null) (read : Json → Option α) :
    j.orNull? read = (read j).map some := by
  cases j with
  | null => exact absurd rfl h
  | _ => rfl

namespace Fields

def ReadFrom : {α : Type} → Fields α → List (String × Json) → α → Prop
  | _, .nil, _, _ => True
  | _, .cons key _ member rest, members, a =>
    (∃ j?, Json.occurrences key members = j?.toList ∧ member.decode j? = some a.1) ∧
      rest.ReadFrom members a.2

theorem decodeMembers_of_readFrom {α : Type} (fields : Fields α) {members : List (String × Json)}
    {a : α} (h : fields.ReadFrom members a) :
    fields.decodeMembers (fun key => Json.single? key members) = some a := by
  match α, fields, a with
  | _, .nil, _ => rfl
  | _, .cons key about member rest, (a, b) =>
    obtain ⟨⟨j?, found, first⟩, others⟩ := h
    exact decodeMembers_cons.mpr
      ⟨⟨j?, Json.single?_eq found, first⟩, decodeMembers_of_readFrom rest others⟩

theorem decodeLast_of_readFrom {α : Type} (fields : Fields α) {members : List (String × Json)}
    {a : α} (h : fields.ReadFrom members a) : fields.decodeLast members = some a := by
  match α, fields, a with
  | _, .nil, _ => rfl
  | _, .cons key about member rest, (a, b) =>
    obtain ⟨⟨j?, found, first⟩, others⟩ := h
    refine decodeLast_cons.mpr ⟨?_, decodeLast_of_readFrom rest others⟩
    rw [found]
    cases j? with
    | none => exact ⟨[], rfl, first⟩
    | some j => exact ⟨[a], by simp [first], rfl⟩

theorem encode_cons {α β : Type} (key : String) (about : Option String) (member : Member α)
    (rest : Fields β) (a : α × β) :
    (cons key about member rest).encode a =
      (member.encode? a.1).toList.map (key, ·) ++ rest.encode a.2 := by
  rw [Fields.encode]
  cases written : member.encode? a.1 <;> simp [written]

theorem keys_encode_sublist {α : Type} (fields : Fields α) (a : α) :
    ((fields.encode a).map (·.1)).Sublist fields.keys := by
  match α, fields, a with
  | _, .nil, _ => exact .slnil
  | _, .cons key about member rest, a =>
    rw [Fields.keys, Fields.encode_cons]
    cases member.encode? a.1 with
    | none => exact (keys_encode_sublist rest a.2).cons key
    | some j => exact (keys_encode_sublist rest a.2).cons_cons key

def WrittenIn : {α : Type} → Fields α → List (String × Json) → α → Prop
  | _, .nil, _, _ => True
  | _, .cons key _ member rest, members, a =>
    Json.occurrences key members = (member.encode? a.1).toList ∧ rest.WrittenIn members a.2

theorem writtenIn_encode {α : Type} (fields : Fields α) (keys : fields.keys.Nodup)
    {front : List (String × Json)}
    (apart : ∀ key ∈ fields.keys, Json.occurrences key front = []) (a : α) :
    fields.WrittenIn (front ++ fields.encode a) a := by
  match α, fields, a with
  | _, .nil, _ => trivial
  | _, .cons key about member rest, a =>
    rw [Fields.keys] at keys apart
    obtain ⟨fresh, keys⟩ := List.nodup_cons.mp keys
    have own := Json.occurrences_map_pair key (member.encode? a.1).toList
    have before : Json.occurrences key front = [] := apart key List.mem_cons_self
    have after : Json.occurrences key (rest.encode a.2) = [] :=
      Json.occurrences_eq_nil fun found => fresh ((rest.keys_encode_sublist a.2).subset found)
    rw [WrittenIn, encode_cons]
    constructor
    · rw [Json.occurrences_append, Json.occurrences_append, before, own, after, List.nil_append,
        List.append_nil]
    · rw [← List.append_assoc]
      apply writtenIn_encode rest keys
      intro k found
      have other : key ≠ k := fun same => fresh (same ▸ found)
      rw [Json.occurrences_append, apart k (List.mem_cons_of_mem _ found),
        Json.occurrences_map_pair_of_ne other]
      rfl

theorem writtenIn_constants {α : Type} {fields : Fields α} {constants : List (String × String)}
    (keys : (constants.map (·.1) ++ fields.keys).Nodup) (a : α) :
    fields.WrittenIn ((constants.map fun c => (c.1, .str c.2)) ++ fields.encode a) a := by
  obtain ⟨-, keys, apart⟩ := List.nodup_append.mp keys
  refine fields.writtenIn_encode keys (fun key found => Json.occurrences_eq_nil ?_) a
  intro constant
  rw [List.map_map] at constant
  exact apart key constant key found rfl

end Fields

theorem mapM_map_eq_some {α β : Type} {write : α → β} {read : β → Option α}
    (h : ∀ a, read (write a) = some a) (xs : List α) : (xs.map write).mapM read = some xs := by
  induction xs with
  | nil => rfl
  | cons x xs ih =>
    rw [List.map_cons, List.mapM_cons, h, ih]
    rfl

mutual

theorem Format.decode_encode {α : Type} (format : Format α) (distinct : format.hasDistinctKeys)
    (a : α) : format.decode (format.encode a) = some a := by
  match α, format, a with
  | _, .text, _ | _, .flag, _ => rfl
  | _, .int32, n => exact Json.int32?_toInt n
  | _, .int64, n => exact Json.int64?_toInt n
  | _, .quantity, _ => rfl
  | _, .portRef, .name s => rfl
  | _, .portRef, .number n =>
    show (Json.int32? (.int n.toInt)).map PortRef.number = _
    rw [Json.int32?_toInt]
    rfl
  | _, .timestamp, t => exact Timestamp.ofText?_text t
  | _, .choice all name complete, a => exact complete a
  | _, .list item, items =>
    rw [Format.hasDistinctKeys] at distinct
    rw [Format.encode, Format.decode]
    exact mapM_map_eq_some (Format.decode_encode item distinct) items
  | _, .dict item, m =>
    rw [Format.hasDistinctKeys] at distinct
    rw [Format.encode, Format.decode]
    let write (e : String × _) := (e.1, item.encode e.2)
    let read (e : String × Json) := (item.decode e.2).map (e.1, ·)
    have entry : ∀ e, read (write e) = some e := by
      intro e
      simp only [read, write, Format.decode_encode item distinct, Option.map_some]
    have entries : (m.entries.map write).mapM read = some m.entries :=
      mapM_map_eq_some entry m.entries
    show ((m.entries.map write).mapM read).map StringMap.ofList = some m
    rw [entries, Option.map_some, StringMap.ofList_entries]
  | _, .record repeats constants fields, a =>
    rw [Format.hasDistinctKeys, Bool.and_eq_true, decide_eq_true_eq] at distinct
    have read := Fields.readFrom_of_writtenIn fields distinct.2
      (Fields.writtenIn_constants distinct.1 a)
    rw [Format.encode]
    cases repeats with
    | refused =>
      rw [Format.decode]
      exact fields.decodeMembers_of_readFrom read
    | lastCounts =>
      rw [Format.decode]
      exact fields.decodeLast_of_readFrom read
  | _, .image inner build parts build_parts, a =>
    rw [Format.hasDistinctKeys] at distinct
    rw [Format.encode, Format.decode]
    simp only [Format.decode_encode inner distinct, Option.map_some, build_parts]
  | _, .described about inner, a =>
    rw [Format.hasDistinctKeys] at distinct
    rw [Format.encode, Format.decode]
    exact Format.decode_encode inner distinct a

theorem Member.decode_encode? {α : Type} (member : Member α) (distinct : member.hasDistinctKeys)
    (a : α) : member.decode (member.encode? a) = some a := by
  match α, member, a with
  | _, .required format, a =>
    rw [Member.hasDistinctKeys] at distinct
    exact Format.decode_encode format distinct a
  | _, .defaulted format value omitted omitted_eq, a =>
    rw [Member.hasDistinctKeys] at distinct
    rw [Member.encode?, Member.decode]
    cases left : omitted a with
    | true =>
      simp only [left, if_true]
      rw [omitted_eq a left]
    | false =>
      simp only [left, Bool.false_eq_true, if_false]
      exact Format.decode_encode format distinct a
  | _, .optional format, none => rfl
  | _, .optional format, some a =>
    rw [Member.hasDistinctKeys] at distinct
    rw [Member.encode?, Member.decode]
    simp only [Option.map_some]
    rw [Json.orNull?_of_ne (format.encode_ne_null a), Format.decode_encode format distinct a]
    rfl

theorem Fields.readFrom_of_writtenIn {α : Type} (fields : Fields α)
    (distinct : fields.hasDistinctKeys) {members : List (String × Json)} {a : α}
    (written : fields.WrittenIn members a) : fields.ReadFrom members a := by
  match α, fields, a with
  | _, .nil, _ => trivial
  | _, .cons key about member rest, a =>
    rw [Fields.hasDistinctKeys, Bool.and_eq_true] at distinct
    obtain ⟨own, others⟩ := written
    exact ⟨⟨member.encode? a.1, own, Member.decode_encode? member distinct.1 a.1⟩,
      Fields.readFrom_of_writtenIn rest distinct.2 others⟩

end

/-- Every value is read back from the document that is written for it; and whatever document a
    value was first read from, writing it down anew does not change it. -/
structure Format.Faithful {α : Type} (format : Format α) : Prop where
  written : ∀ a, format.decode (format.encode a) = some a
  rewritten : ∀ j, (format.decode j).bind (fun a => format.decode (format.encode a)) =
    format.decode j

theorem Format.faithful {α : Type} {format : Format α} (distinct : format.hasDistinctKeys) :
    format.Faithful where
  written := format.decode_encode distinct
  rewritten j := by
    cases format.decode j with
    | none => rfl
    | some a => exact format.decode_encode distinct a

theorem kinds_faithful :
    (KnativeServing.format.Faithful ∧ ServingSpec.format.Faithful ∧
      ServingStatus.format.Faithful) ∧
    (Ingress.format.Faithful ∧ IngressSpec.format.Faithful ∧ IngressStatus.format.Faithful) ∧
    Route.format.Faithful ∧ RouteSpec.format.Faithful ∧ RouteStatus.format.Faithful := by
  refine ⟨⟨?_, ?_, ?_⟩, ⟨?_, ?_, ?_⟩, ?_, ?_, ?_⟩ <;> exact Format.faithful (by decide)

example : RouteSpec.format.decode (.obj [
      ("extra", .null),
      ("host", .str "www.example.org"),
      ("to", .arr [.str "Service", .str "gateway", .null]),
      ("port", .null),
      ("tls", .obj [("termination", .obj [("edge", .null)])])]) =
    some { host := "www.example.org", target := { kind := "Service", name := "gateway" },
           tls := some { termination := .edge } } := by
  decide

end ServingOperator
