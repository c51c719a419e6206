import Mathlib.Data.List.Basic
import ServingOperator.Proofs.Json.MergePatch
import ServingOperator.Proofs.Wire.RecordMembers

namespace ServingOperator

theorem mapM_eq_none_of_mem {α β : Type} {f : α → Option β} {xs : List α} {x : α}
    (member : x ∈ xs) (failed : f x = none) : xs.mapM f = none := by
  obtain ⟨front, back, rfl⟩ := List.append_of_mem member
  cases read : front.mapM f <;> simp [read, failed]

theorem mapM_middle {α β : Type} {f : α → Option β} {x x' : α} (same : f x = f x')
    (front back : List α) : (front ++ x :: back).mapM f = (front ++ x' :: back).mapM f := by
  simp only [List.mapM_append, List.mapM_cons, same]

namespace Member

variable {α : Type}

def read (repeats : Repeats) (member : Member α) (js : List Json) : Option α :=
  match repeats, js with
  | .refused, [] => member.decode none
  | .refused, [j] => member.decode (some j)
  | .refused, _ => none
  | .lastCounts, js => (js.mapM fun j => member.decode (some j)).bind fun values =>
    values.getLast?.or (member.decode none)

theorem read_nil (repeats : Repeats) (member : Member α) :
    member.read repeats [] = member.decode none := by
  cases repeats <;> rfl

theorem read_singleton (repeats : Repeats) (member : Member α) (j : Json) :
    member.read repeats [j] = member.decode (some j) := by
  cases repeats with
  | refused => rfl
  | lastCounts => cases decoded : member.decode (some j) <;> simp [read, decoded]

theorem read_eq_none_of_mem {repeats : Repeats} {member : Member α} {js : List Json} {j : Json}
    (given : j ∈ js) (unreadable : member.decode (some j) = none) :
    member.read repeats js = none := by
  cases repeats with
  | refused =>
    match js with
    | [k] => rwa [List.mem_singleton.mp given] at unreadable
    | _ :: _ :: _ => rfl
  | lastCounts =>
    have failed := mapM_eq_none_of_mem (f := fun j => member.decode (some j)) given unreadable
    rw [read, failed]
    rfl

theorem read_middle {repeats : Repeats} {member : Member α} {j j' : Json}
    (same : member.decode (some j) = member.decode (some j')) (front back : List Json) :
    member.read repeats (front ++ j :: back) = member.read repeats (front ++ j' :: back) := by
  cases repeats with
  | refused =>
    cases front with
    | nil => cases back <;> simp [read, same]
    | cons k front => cases front <;> rfl
  | lastCounts =>
    have middle := mapM_middle (f := fun j => member.decode (some j)) same front back
    rw [read, read, middle]

theorem read_of_perm (member : Member α) {js js' : List Json} (perm : js.Perm js') :
    member.read .refused js = member.read .refused js' := by
  match js, js' with
  | [], js' => rw [List.nil_perm.mp perm]
  | [j], js' => rw [List.singleton_perm.mp perm]
  | _ :: _ :: _, [] => cases perm.eq_nil
  | _ :: _ :: _, [_] => cases List.perm_singleton.mp perm
  | _ :: _ :: _, _ :: _ :: _ => rfl

end Member

namespace Fields

variable {α β : Type} {repeats : Repeats} {fields : Fields α} {key : String} {member : Member β}
  {get : α → β} {set : β → α → α} {members members' : List (String × Json)}

def read (repeats : Repeats) : {α : Type} → Fields α → List (String × Json) → Option α
  | _, .nil, _ => some ()
  | _, .cons key _ member rest, members =>
    (member.read repeats (Json.occurrences key members)).bind fun a =>
      (rest.read repeats members).map (a, ·)

theorem single?_bind_decode {α : Type} (member : Member α) (key : String)
    (members : List (String × Json)) :
    (Json.single? key members).bind member.decode =
      member.read .refused (Json.occurrences key members) := by
  unfold Json.single?
  match Json.occurrences key members with
  | [] => rfl
  | [_] => rfl
  | _ :: _ :: _ => rfl

theorem decodeMembers_eq_read {α : Type} (fields : Fields α) (members : List (String × Json)) :
    fields.decodeMembers (fun key => Json.single? key members) = fields.read .refused members := by
  match α, fields with
  | _, .nil => rfl
  | _, .cons key about member rest =>
    have others := decodeMembers_eq_read rest members
    rw [read, ← others, ← single?_bind_decode, Option.bind_assoc]
    simp only [decodeMembers, Option.map_eq_bind]
    rfl

theorem decodeLast_eq_read {α : Type} (fields : Fields α) (members : List (String × Json)) :
    fields.decodeLast members = fields.read .lastCounts members := by
  match α, fields with
  | _, .nil => rfl
  | _, .cons key about member rest =>
    have others := decodeLast_eq_read rest members
    rw [read, ← others, Member.read, Option.bind_assoc]
    simp only [decodeLast, Option.map_eq_bind]
    rfl

theorem read_congr {α : Type} (fields : Fields α)
    (h : ∀ key ∈ fields.keys, ∀ {β : Type} (member : Member β),
      member.read repeats (Json.occurrences key members) =
        member.read repeats (Json.occurrences key members')) :
    fields.read repeats members = fields.read repeats members' := by
  match α, fields with
  | _, .nil => rfl
  | _, .cons key about member rest =>
    have here := h key List.mem_cons_self member
    have there := read_congr rest fun k found => h k (List.mem_cons_of_mem _ found)
    rw [read, read, here, there]

namespace At

theorem read_congr (place : fields.At key member get set)
    (here : member.read repeats (Json.occurrences key members) =
      member.read repeats (Json.occurrences key members'))
    (elsewhere : ∀ other, other ≠ key →
      Json.occurrences other members = Json.occurrences other members') :
    fields.read repeats members = fields.read repeats members' := by
  induction place with
  | @head _ _ _ _ _ rest fresh =>
    have there : rest.read repeats members = rest.read repeats members' := by
      apply rest.read_congr
      intro k found _ member
      rw [elsewhere k fun same => fresh (same ▸ found)]
    rw [read, read, here, there]
  | tail differ later ih =>
    rw [read, read, elsewhere _ (Ne.symm differ), ih here elsewhere]

theorem read_eq_none (place : fields.At key member get set)
    (unreadable : member.read repeats (Json.occurrences key members) = none) :
    fields.read repeats members = none := by
  induction place with
  | head fresh =>
    rw [read, unreadable]
    rfl
  | tail differ later ih =>
    rw [read, ih unreadable]
    simp

theorem exists_decodeItems (place : fields.At key member get set) {front : List Json}
    (position : fields.keys.idxOf key = front.length) (back : List Json) :
    ∃ finish : Option β → Option α, finish none = none ∧
      ∀ j, fields.decodeItems (front ++ j :: back) = finish (member.decode (some j)) := by
  induction place generalizing front with
  | @head _ _ _ _ _ rest fresh =>
    have first : front = [] := by
      rw [keys, List.idxOf_cons_self] at position
      exact List.length_eq_zero_iff.mp position.symm
    refine ⟨fun value? => value?.bind fun a => (rest.decodeItems back).map (a, ·), rfl, ?_⟩
    intro j
    simp only [first, List.nil_append, decodeItems, Option.map_eq_bind]
    rfl
  | @tail _ _ _ key other _ first rest _ _ _ differ later ih =>
    have step : (other :: rest.keys).idxOf key = rest.keys.idxOf key + 1 :=
      List.idxOf_cons_ne rest.keys differ.symm
    cases front with
    | nil => simp [keys, step] at position
    | cons i front =>
      have position : rest.keys.idxOf key = front.length := by simpa [keys, step] using position
      obtain ⟨finish, failed, through⟩ := ih position
      let finish' (value? : Option _) :=
        (first.decode (some i)).bind fun a => (finish value?).map (a, ·)
      refine ⟨finish', ?_, ?_⟩
      · simp [finish', failed]
      · intro j
        simp only [finish', List.cons_append, decodeItems, through, Option.map_eq_bind]
        rfl

end At

end Fields

theorem Format.decode_obj {α : Type} (repeats : Repeats) (constants : List (String × String))
    (fields : Fields α) (members : List (String × Json)) :
    (Format.record repeats constants fields).decode (.obj members) =
      fields.read repeats members := by
  cases repeats with
  | refused =>
    rw [Format.decode]
    exact fields.decodeMembers_eq_read members
  | lastCounts =>
    rw [Format.decode]
    exact fields.decodeLast_eq_read members

end ServingOperator
