import ServingOperator.Resource
import ServingOperator.StringMap
import ServingOperator.Timestamp

namespace ServingOperator

inductive Repeats where
  /-- It is refused. Such a record may also be given as the array of its members. -/
  | refused
  /-- The last one counts, and each has to be readable. -/
  | lastCounts
deriving DecidableEq, Repr

mutual

inductive Format : Type → Type 1 where
  | text : Format String
  | flag : Format Bool
  | int32 : Format Int32
  | int64 : Format Int64
  | quantity : Format Quantity
  | portRef : Format PortRef
  | timestamp : Format Timestamp
  | choice {α : Type} (all : List α) (name : α → String)
      (complete : ∀ a, all.find? (fun b => name b = name a) = some a) : Format α
  | list {α : Type} (item : Format α) : Format (List α)
  | dict {α : Type} (item : Format α) : Format (StringMap α)
  | record {α : Type} (repeats : Repeats) (constants : List (String × String))
      (fields : Fields α) : Format α
  | image {α β : Type} (inner : Format β) (build : β → α) (parts : α → β)
      (build_parts : ∀ a, build (parts a) = a) : Format α
  | described {α : Type} (about : String) (inner : Format α) : Format α

inductive Member : Type → Type 1 where
  | required {α : Type} (format : Format α) : Member α
  /-- A missing member stands for a value; where `omitted` holds, that value is not written. -/
  | defaulted {α : Type} (format : Format α) (value : α) (omitted : α → Bool)
      (omitted_eq : ∀ a, omitted a = true → a = value) : Member α
  /-- A missing member and a null both stand for nothing, which is not written. -/
  | optional {α : Type} (format : Format α) : Member (Option α)

inductive Fields : Type → Type 1 where
  | nil : Fields Unit
  | cons {α β : Type} (key : String) (about : Option String) (member : Member α)
      (rest : Fields β) : Fields (α × β)

end

namespace Fields

def keys : {α : Type} → Fields α → List String
  | _, .nil => []
  | _, .cons key _ _ rest => key :: rest.keys

end Fields

def Json.single? (key : String) (members : List (String × Json)) : Option (Option Json) :=
  match Json.occurrences key members with
  | [] => some none
  | [j] => some (some j)
  | _ => none

mutual

def Format.decode : {α : Type} → Format α → Json → Option α
  | _, .text => Json.text?
  | _, .flag => Json.bool?
  | _, .int32 => Json.int32?
  | _, .int64 => Json.int64?
  | _, .quantity => Json.quantity?
  | _, .portRef => Json.portRef?
  | _, .timestamp => fun j => j.text?.bind Timestamp.ofText?
  | _, .choice all name _ => fun j =>
    match j with
    | .str s => all.find? (name · = s)
    | .obj [(key, .null)] => all.find? (name · = key)
    | _ => none
  | _, .list item => fun j =>
    match j with
    | .arr items => items.mapM fun i => item.decode i
    | _ => none
  | _, .dict item => fun j =>
    match j with
    | .obj members =>
      (members.mapM fun m => (item.decode m.2).map (m.1, ·)).map StringMap.ofList
    | _ => none
  | _, .record .refused _ fields => fun j =>
    match j with
    | .obj members => fields.decodeMembers (fun key => Json.single? key members)
    | .arr items => fields.decodeItems items
    | _ => none
  | _, .record .lastCounts _ fields => fun j =>
    match j with
    | .obj members => fields.decodeLast members
    | _ => none
  | _, .image inner build _ _ => fun j => (inner.decode j).map build
  | _, .described _ inner => fun j => inner.decode j

def Member.decode : {α : Type} → Member α → Option Json → Option α
  | _, .required format => fun j => j.bind fun j => format.decode j
  | _, .defaulted format value _ _ => fun j =>
    match j with
    | none => some value
    | some j => format.decode j
  | _, .optional format => fun j =>
    match j with
    | none => some none
    | some j => j.orNull? fun j => format.decode j

def Member.beyond? : {α : Type} → Member α → Option α
  | _, .required _ => none
  | _, .defaulted _ value _ _ => some value
  | _, .optional _ => none

def Fields.decodeMembers : {α : Type} → Fields α → (String → Option (Option Json)) → Option α
  | _, .nil => fun _ => some ()
  | _, .cons key _ member rest => fun find => do
    let j ← find key
    let value ← member.decode j
    let values ← rest.decodeMembers find
    return (value, values)

def Fields.decodeItems : {α : Type} → Fields α → List Json → Option α
  | _, .nil => fun items => if items.isEmpty then some () else none
  | _, .cons _ _ member rest => fun items =>
    match items with
    | [] => do return (← member.beyond?, ← rest.decodeItems [])
    | j :: items => do return (← member.decode (some j), ← rest.decodeItems items)

def Fields.decodeLast : {α : Type} → Fields α → List (String × Json) → Option α
  | _, .nil => fun _ => some ()
  | _, .cons key _ member rest => fun members => do
    let values ← (Json.occurrences key members).mapM fun j => member.decode (some j)
    let value ← values.getLast?.or (member.decode none)
    return (value, ← rest.decodeLast members)

end

mutual

def Format.encode : {α : Type} → Format α → α → Json
  | _, .text => .str
  | _, .flag => .bool
  | _, .int32 => fun n => .int n.toInt
  | _, .int64 => fun n => .int n.toInt
  | _, .quantity => fun q => .str q.text
  | _, .portRef => fun p =>
    match p with
    | .name s => .str s
    | .number n => .int n.toInt
  | _, .timestamp => fun t => .str t.text
  | _, .choice _ name _ => fun a => .str (name a)
  | _, .list item => fun items => .arr (items.map fun i => item.encode i)
  | _, .dict item => fun m => .obj (m.entries.map fun e => (e.1, item.encode e.2))
  | _, .record _ constants fields => fun a =>
    .obj ((constants.map fun c => (c.1, .str c.2)) ++ fields.encode a)
  | _, .image inner _ parts _ => fun a => inner.encode (parts a)
  | _, .described _ inner => fun a => inner.encode a

def Member.encode? : {α : Type} → Member α → α → Option Json
  | _, .required format => fun a => some (format.encode a)
  | _, .defaulted format _ omitted _ => fun a =>
    if omitted a then none else some (format.encode a)
  | _, .optional format => fun a => a.map fun a => format.encode a

def Fields.encode : {α : Type} → Fields α → α → List (String × Json)
  | _, .nil => fun _ => []
  | _, .cons key _ member rest => fun a =>
    match member.encode? a.1 with
    | some j => (key, j) :: rest.encode a.2
    | none => rest.encode a.2

end

namespace Member

variable {α : Type}

def orElse (format : Format α) (value : α) : Member α :=
  .defaulted format value (fun _ => false) (by simp)

def textIfAny : Member String :=
  .defaulted .text "" (· = "") (by simp)

def listIfAny (item : Format α) : Member (List α) :=
  .defaulted (.list item) [] List.isEmpty (by simp)

def dictIfAny (item : Format α) : Member (StringMap α) :=
  .defaulted (.dict item) ∅ StringMap.isEmpty fun _ h => StringMap.ext (List.isEmpty_iff.mp h)

def flagIfSet : Member Bool :=
  .defaulted .flag false (!·) (by simp)

end Member

def ObjectMeta.format : Format ObjectMeta :=
  .image
    (.record .lastCounts [] <|
      .cons "name" none (.optional .text) <|
      .cons "generateName" none (.optional .text) <|
      .cons "namespace" none (.optional .text) <|
      .cons "uid" none (.optional .text) <|
      .cons "generation" none (.optional .int64) <|
      .cons "labels" none (.optional (.dict .text)) <|
      .cons "annotations" none (.optional (.dict .text)) <|
      .cons "finalizers" none (.optional (.list .text)) <|
      .cons "deletionTimestamp" none (.optional .timestamp) .nil)
    (fun (name, generateName, inNamespace, uid, generation, labels, annotations, finalizers,
        deletionTimestamp, ()) =>
      { name, generateName, inNamespace, uid, generation, labels, annotations, finalizers,
        deletionTimestamp })
    (fun m => (m.name, m.generateName, m.inNamespace, m.uid, m.generation, m.labels,
      m.annotations, m.finalizers, m.deletionTimestamp, ()))
    (fun _ => rfl)

def Resource.format {σ τ : Type} (kind : ResourceKind) (spec : Format σ) (status : Format τ) :
    Format (Resource σ τ) :=
  .image
    (.record .refused [("apiVersion", kind.apiVersion), ("kind", kind.kind)] <|
      .cons "metadata" none (.required ObjectMeta.format) <|
      .cons "spec" none (.required spec) <|
      .cons "status" none (.optional status) .nil)
    (fun (metadata, spec, status, ()) => { metadata, spec, status })
    (fun r => (r.metadata, r.spec, r.status, ()))
    (fun _ => rfl)

end ServingOperator
