import Mathlib.Logic.Relation
import ServingOperator.Proofs.Wire.RecordReading
import ServingOperator.Proofs.Wire.RoundTrip
import ServingOperator.Wire.IngressFormat
import ServingOperator.Wire.RouteFormat
import ServingOperator.Wire.ServingFormat

namespace ServingOperator

inductive Member.Holds : {α β : Type} → Member α → Format β → Prop where
  | required {α : Type} {format : Format α} : Holds (.required format) format
  | defaulted {α : Type} {format : Format α} {value : α} {omitted : α → Bool}
      {omitted_eq : ∀ a, omitted a = true → a = value} :
      Holds (.defaulted format value omitted omitted_eq) format
  | optional {α : Type} {format : Format α} : Holds (.optional format) format

def Member.isOptional : {α : Type} → Member α → Bool
  | _, .optional _ => true
  | _, .required _ | _, .defaulted _ _ _ _ => false

namespace Format

/-- One change to a document, at any depth of it. -/
inductive Edit : {α : Type} → Format α → Json → Json → Prop where
  | permuted {α : Type} {repeats : Repeats} {constants : List (String × String)}
      {fields : Fields α} {members members' : List (String × Json)}
      (perm : members.Perm members')
      (order : repeats = .lastCounts → ∀ key,
        Json.occurrences key members = Json.occurrences key members') :
      Edit (.record repeats constants fields) (.obj members) (.obj members')
  | unknown {α : Type} {constants : List (String × String)} {fields : Fields α} {key : String}
      {j : Json} {front back : List (String × Json)} (unknown : key ∉ fields.keys) :
      Edit (.record .refused constants fields) (.obj (front ++ back))
        (.obj (front ++ (key, j) :: back))
  | constant {α : Type} {repeats : Repeats} {constants : List (String × String)}
      {fields : Fields α} {key : String} {j : Json} {front back : List (String × Json)}
      (constant : key ∈ constants.map (·.1)) :
      Edit (.record repeats constants fields) (.obj (front ++ back))
        (.obj (front ++ (key, j) :: back))
  | null {α β : Type} {repeats : Repeats} {constants : List (String × String)} {fields : Fields α}
      {key : String} {member : Member β} {get : α → β} {set : β → α → α}
      {front back : List (String × Json)} (place : fields.At key member get set)
      (optional : member.isOptional) (missing : key ∉ (front ++ back).map (·.1)) :
      Edit (.record repeats constants fields) (.obj (front ++ back))
        (.obj (front ++ (key, .null) :: back))
  | inMember {α β γ : Type} {repeats : Repeats} {constants : List (String × String)}
      {fields : Fields α} {key : String} {member : Member β} {get : α → β} {set : β → α → α}
      {format : Format γ} {j j' : Json} {front back : List (String × Json)}
      (place : fields.At key member get set) (holds : member.Holds format)
      (edit : Edit format j j') :
      Edit (.record repeats constants fields) (.obj (front ++ (key, j) :: back))
        (.obj (front ++ (key, j') :: back))
  | inItem {α β γ : Type} {constants : List (String × String)} {fields : Fields α} {key : String}
      {member : Member β} {get : α → β} {set : β → α → α} {format : Format γ} {j j' : Json}
      {front back : List Json} (place : fields.At key member get set)
      (position : fields.keys.idxOf key = front.length) (holds : member.Holds format)
      (edit : Edit format j j') :
      Edit (.record .refused constants fields) (.arr (front ++ j :: back))
        (.arr (front ++ j' :: back))
  | inList {α : Type} {item : Format α} {j j' : Json} {front back : List Json}
      (edit : Edit item j j') :
      Edit (.list item) (.arr (front ++ j :: back)) (.arr (front ++ j' :: back))
  | inDict {α : Type} {item : Format α} {key : String} {j j' : Json}
      {front back : List (String × Json)} (edit : Edit item j j') :
      Edit (.dict item) (.obj (front ++ (key, j) :: back)) (.obj (front ++ (key, j') :: back))
  | image {α β : Type} {inner : Format β} {build : β → α} {parts : α → β}
      {build_parts : ∀ a, build (parts a) = a} {j j' : Json} (edit : Edit inner j j') :
      Edit (.image inner build parts build_parts) j j'
  | described {α : Type} {about : String} {inner : Format α} {j j' : Json}
      (edit : Edit inner j j') :
      Edit (.described about inner) j j'

/-- Somewhere a document gives a null for a member that may not be null. -/
inductive GivesNull : {α : Type} → Format α → Json → Prop where
  | member {α β : Type} {repeats : Repeats} {constants : List (String × String)}
      {fields : Fields α} {key : String} {member : Member β} {get : α → β} {set : β → α → α}
      {members : List (String × Json)} (place : fields.At key member get set)
      (needed : member.isOptional = false) (given : (key, Json.null) ∈ members) :
      GivesNull (.record repeats constants fields) (.obj members)
  | item {α β : Type} {constants : List (String × String)} {fields : Fields α} {key : String}
      {member : Member β} {get : α → β} {set : β → α → α} {front back : List Json}
      (place : fields.At key member get set) (position : fields.keys.idxOf key = front.length)
      (needed : member.isOptional = false) :
      GivesNull (.record .refused constants fields) (.arr (front ++ .null :: back))
  | inMember {α β γ : Type} {repeats : Repeats} {constants : List (String × String)}
      {fields : Fields α} {key : String} {member : Member β} {get : α → β} {set : β → α → α}
      {format : Format γ} {j : Json} {members : List (String × Json)}
      (place : fields.At key member get set) (holds : member.Holds format)
      (given : (key, j) ∈ members) (within : GivesNull format j) :
      GivesNull (.record repeats constants fields) (.obj members)
  | inItem {α β γ : Type} {constants : List (String × String)} {fields : Fields α} {key : String}
      {member : Member β} {get : α → β} {set : β → α → α} {format : Format γ} {j : Json}
      {front back : List Json} (place : fields.At key member get set)
      (position : fields.keys.idxOf key = front.length) (holds : member.Holds format)
      (within : GivesNull format j) :
      GivesNull (.record .refused constants fields) (.arr (front ++ j :: back))
  | inList {α : Type} {item : Format α} {j : Json} {items : List Json} (given : j ∈ items)
      (within : GivesNull item j) :
      GivesNull (.list item) (.arr items)
  | inDict {α : Type} {item : Format α} {key : String} {j : Json} {members : List (String × Json)}
      (given : (key, j) ∈ members) (within : GivesNull item j) :
      GivesNull (.dict item) (.obj members)
  | image {α β : Type} {inner : Format β} {build : β → α} {parts : α → β}
      {build_parts : ∀ a, build (parts a) = a} {j : Json} (within : GivesNull inner j) :
      GivesNull (.image inner build parts build_parts) j
  | described {α : Type} {about : String} {inner : Format α} {j : Json}
      (within : GivesNull inner j) :
      GivesNull (.described about inner) j

theorem decode_null {α : Type} (format : Format α) : format.decode .null = none := by
  match α, format with
  | _, .text | _, .flag | _, .int32 | _, .int64 | _, .quantity | _, .portRef | _, .timestamp
  | _, .choice _ _ _ | _, .list _ | _, .dict _ | _, .record .refused _ _
  | _, .record .lastCounts _ _ => rfl
  | _, .image inner build parts build_parts =>
    have nothing := decode_null inner
    simp only [Format.decode, nothing, Option.map_none]
  | _, .described about inner =>
    rw [Format.decode]
    exact decode_null inner

end Format

namespace Member

variable {α β : Type} {member : Member α} {format : Format β} {j j' : Json}

theorem Holds.hasDistinctKeys (holds : member.Holds format) (distinct : member.hasDistinctKeys) :
    format.hasDistinctKeys := by
  cases holds <;> exact distinct

theorem Holds.decode_congr (holds : member.Holds format) (given : j ≠ .null) (given' : j' ≠ .null)
    (same : format.decode j = format.decode j') :
    member.decode (some j) = member.decode (some j') := by
  cases holds with
  | required => simp only [decode, Option.bind_some, same]
  | defaulted => simp only [decode, same]
  | optional => simp only [decode, Json.orNull?_of_ne given, Json.orNull?_of_ne given', same]

theorem Holds.decode_eq_none (holds : member.Holds format) (given : j ≠ .null)
    (unreadable : format.decode j = none) : member.decode (some j) = none := by
  cases holds with
  | required => simp only [decode, Option.bind_some, unreadable]
  | defaulted => simp only [decode, unreadable]
  | optional => simp only [decode, Json.orNull?_of_ne given, unreadable, Option.map_none]

theorem decode_null_of_optional (optional : member.isOptional) :
    member.decode (some .null) = member.decode none := by
  cases member with
  | optional => rfl
  | required | defaulted => cases optional

theorem decode_null_of_needed (needed : member.isOptional = false) :
    member.decode (some .null) = none := by
  cases member with
  | required format => simp only [decode, Option.bind_some, format.decode_null]
  | defaulted format => simp only [decode, format.decode_null]
  | optional => cases needed

end Member

theorem Fields.At.hasDistinctKeys {α β : Type} {fields : Fields α} {key : String}
    {member : Member β} {get : α → β} {set : β → α → α} (place : fields.At key member get set)
    (distinct : fields.hasDistinctKeys) : member.hasDistinctKeys := by
  induction place with
  | head fresh => exact (Bool.and_eq_true_iff.mp distinct).1
  | tail differ later ih => exact ih (Bool.and_eq_true_iff.mp distinct).2

namespace Fields

variable {α β : Type} {fields : Fields α} {key : String} {member : Member β} {get : α → β}
  {set : β → α → α}

theorem read_insert (foreign : key ∉ fields.keys) (repeats : Repeats) (j : Json)
    (front back : List (String × Json)) :
    fields.read repeats (front ++ (key, j) :: back) = fields.read repeats (front ++ back) := by
  apply fields.read_congr
  intro other found _ member
  have differ : key ≠ other := fun same => foreign (same ▸ found)
  rw [Json.occurrences_append, Json.occurrences_append, Json.occurrences_cons_of_ne differ]

theorem At.read_middle (place : fields.At key member get set) {j j' : Json}
    (same : member.decode (some j) = member.decode (some j')) (repeats : Repeats)
    (front back : List (String × Json)) :
    fields.read repeats (front ++ (key, j) :: back) =
      fields.read repeats (front ++ (key, j') :: back) := by
  apply place.read_congr
  · simp only [Json.occurrences_append, Json.occurrences_cons_self]
    exact Member.read_middle same _ _
  · intro other differ
    simp only [Json.occurrences_append, Json.occurrences_cons_of_ne differ.symm]

theorem At.read_null (place : fields.At key member get set) (optional : member.isOptional)
    {front back : List (String × Json)} (missing : key ∉ (front ++ back).map (·.1))
    (repeats : Repeats) :
    fields.read repeats (front ++ back) =
      fields.read repeats (front ++ (key, .null) :: back) := by
  apply place.read_congr
  · have nothing := Json.occurrences_eq_nil missing
    have ⟨before, behind⟩ : Json.occurrences key front = [] ∧ Json.occurrences key back = [] := by
      simpa [Json.occurrences_append] using nothing
    rw [nothing, Json.occurrences_append, Json.occurrences_cons_self, before, behind,
      List.nil_append, Member.read_nil, Member.read_singleton,
      Member.decode_null_of_optional optional]
  · intro other differ
    simp only [Json.occurrences_append, Json.occurrences_cons_of_ne differ.symm]

theorem At.read_eq_none_of_mem (place : fields.At key member get set) {j : Json}
    {members : List (String × Json)} (given : (key, j) ∈ members)
    (unreadable : member.decode (some j) = none) (repeats : Repeats) :
    fields.read repeats members = none := by
  have found : j ∈ Json.occurrences key members := StringMap.mem_valuesOf.mpr given
  exact place.read_eq_none (Member.read_eq_none_of_mem found unreadable)

theorem At.decodeItems_congr (place : fields.At key member get set) {front : List Json}
    (position : fields.keys.idxOf key = front.length) {j j' : Json}
    (same : member.decode (some j) = member.decode (some j')) (back : List Json) :
    fields.decodeItems (front ++ j :: back) = fields.decodeItems (front ++ j' :: back) := by
  obtain ⟨finish, -, through⟩ := place.exists_decodeItems position back
  rw [through, through, same]

theorem At.decodeItems_eq_none (place : fields.At key member get set) {front : List Json}
    (position : fields.keys.idxOf key = front.length) {j : Json}
    (unreadable : member.decode (some j) = none) (back : List Json) :
    fields.decodeItems (front ++ j :: back) = none := by
  obtain ⟨finish, failed, through⟩ := place.exists_decodeItems position back
  rw [through, unreadable, failed]

end Fields

namespace Format

variable {α : Type} {format : Format α} {j j' : Json}

theorem Edit.ne_null (edit : format.Edit j j') : j ≠ .null ∧ j' ≠ .null := by
  induction edit with
  | image _ ih | described _ ih => exact ih
  | _ => simp

theorem GivesNull.ne_null (gives : format.GivesNull j) : j ≠ .null := by
  induction gives with
  | image _ ih | described _ ih => exact ih
  | _ => simp

theorem decode_arr {constants : List (String × String)} {fields : Fields α} (items : List Json) :
    (Format.record .refused constants fields).decode (.arr items) = fields.decodeItems items := by
  rw [Format.decode]

theorem Edit.decode_eq (edit : format.Edit j j') (distinct : format.hasDistinctKeys) :
    format.decode j = format.decode j' := by
  induction edit with
  | @permuted _ repeats _ fields members members' perm order =>
    rw [decode_obj, decode_obj]
    apply fields.read_congr
    intro key found _ member
    cases repeats with
    | refused => exact member.read_of_perm (perm.filterMap _)
    | lastCounts => rw [order rfl key]
  | unknown foreign => rw [decode_obj, decode_obj, Fields.read_insert foreign]
  | constant constant =>
    rw [hasDistinctKeys, Bool.and_eq_true, decide_eq_true_eq] at distinct
    obtain ⟨-, -, apart⟩ := List.nodup_append.mp distinct.1
    have foreign : _ ∉ Fields.keys _ := fun found => apart _ constant _ found rfl
    rw [decode_obj, decode_obj, Fields.read_insert foreign]
  | null place optional missing => rw [decode_obj, decode_obj, place.read_null optional missing]
  | inMember place holds edit ih =>
    rw [hasDistinctKeys, Bool.and_eq_true] at distinct
    have within := ih (holds.hasDistinctKeys (place.hasDistinctKeys distinct.2))
    have same := holds.decode_congr edit.ne_null.1 edit.ne_null.2 within
    rw [decode_obj, decode_obj, place.read_middle same]
  | inItem place position holds edit ih =>
    rw [hasDistinctKeys, Bool.and_eq_true] at distinct
    have within := ih (holds.hasDistinctKeys (place.hasDistinctKeys distinct.2))
    have same := holds.decode_congr edit.ne_null.1 edit.ne_null.2 within
    rw [decode_arr, decode_arr, place.decodeItems_congr position same]
  | inList edit ih =>
    have within := ih distinct
    simp only [Format.decode, mapM_middle within]
  | inDict edit ih =>
    have within := ih distinct
    simp only [Format.decode]
    rw [mapM_middle]
    simp only [within]
  | image edit ih =>
    have within := ih distinct
    simp only [Format.decode, within]
  | described edit ih =>
    have within := ih distinct
    simp only [Format.decode, within]

theorem GivesNull.decode_eq_none (gives : format.GivesNull j) : format.decode j = none := by
  induction gives with
  | member place needed given =>
    rw [decode_obj, place.read_eq_none_of_mem given (Member.decode_null_of_needed needed)]
  | item place position needed =>
    rw [decode_arr, place.decodeItems_eq_none position (Member.decode_null_of_needed needed)]
  | inMember place holds given within ih =>
    rw [decode_obj, place.read_eq_none_of_mem given (holds.decode_eq_none within.ne_null ih)]
  | inItem place position holds within ih =>
    have unreadable := holds.decode_eq_none within.ne_null ih
    rw [decode_arr, place.decodeItems_eq_none position unreadable]
  | inList given within ih => simp only [Format.decode, mapM_eq_none_of_mem given ih]
  | inDict given within ih =>
    simp only [Format.decode]
    rw [mapM_eq_none_of_mem given (by simp only [ih, Option.map_none]), Option.map_none]
  | image within ih => simp only [Format.decode, ih, Option.map_none]
  | described within ih => simp only [Format.decode, ih]

/-- Documents that lead to each other by changes that do not matter, in either direction, are read
    alike; and none that gives a null where it may not is read at all. -/
structure Tolerant (format : Format α) : Prop where
  alike : ∀ j j', Relation.EqvGen format.Edit j j' → format.decode j = format.decode j'
  refuses : ∀ j, format.GivesNull j → format.decode j = none

theorem tolerant (distinct : format.hasDistinctKeys) : format.Tolerant where
  alike j j' related := by
    induction related with
    | rel j j' edit => exact edit.decode_eq distinct
    | refl j => rfl
    | symm j j' _ ih => exact ih.symm
    | trans j j' j'' _ _ ih ih' => exact ih.trans ih'
  refuses j gives := gives.decode_eq_none

end Format

theorem kinds_tolerant :
    (KnativeServing.format.Tolerant ∧ ServingSpec.format.Tolerant ∧
      HighAvailability.format.Tolerant ∧ CustomCerts.format.Tolerant ∧
      Registry.format.Tolerant ∧ ResourceOverride.format.Tolerant ∧
      ConfigSections.format.Tolerant ∧ IngressBlock.format.Tolerant ∧
      BackendSettings.format.Tolerant ∧ ServiceType.format.Tolerant ∧
      ServingStatus.format.Tolerant ∧ Condition.format.Tolerant) ∧
    (Ingress.format.Tolerant ∧ IngressSpec.format.Tolerant ∧ IngressTLS.format.Tolerant ∧
      IngressRule.format.Tolerant ∧ Visibility.format.Tolerant ∧ HttpOption.format.Tolerant ∧
      IngressStatus.format.Tolerant ∧ LoadBalancer.format.Tolerant ∧
      LoadBalancerEntry.format.Tolerant) ∧
    Route.format.Tolerant ∧ RouteSpec.format.Tolerant ∧ RouteTarget.format.Tolerant ∧
      RoutePort.format.Tolerant ∧ RouteTLS.format.Tolerant ∧ Termination.format.Tolerant ∧
      InsecurePolicy.format.Tolerant ∧ WildcardPolicy.format.Tolerant ∧
      RouteStatus.format.Tolerant ∧ RouteAdmission.format.Tolerant ∧
      ObjectMeta.format.Tolerant := by
  refine ⟨⟨?_, ?_, ?_, ?_, ?_, ?_, ?_, ?_, ?_, ?_, ?_, ?_⟩,
    ⟨?_, ?_, ?_, ?_, ?_, ?_, ?_, ?_, ?_⟩, ?_, ?_, ?_, ?_, ?_, ?_, ?_, ?_, ?_, ?_, ?_⟩ <;>
    exact Format.tolerant (by decide)

def ruleDocument (rule : List (String × Json)) : Json :=
  .obj [("metadata", .obj []), ("spec", .obj [("rules", .arr [.obj rule])])]

theorem kinds_tolerant_rule :
    let host := ("hosts", Json.arr [.str "www.example.org"])
    let read rule := Ingress.format.decode (ruleDocument rule)
    (read [host]).isSome ∧ read [host] = read [host, ("http", .obj [("paths", .arr [])])] ∧
      read [host, ("visibility", .null)] = none := by
  intro host read
  obtain ⟨-, ⟨tolerant, -⟩, -⟩ := kinds_tolerant
  refine ⟨by decide, tolerant.alike _ _ (.rel _ _ ?_), tolerant.refuses _ ?_⟩
  · have inRule : IngressRule.format.Edit (.obj ([host] ++ []))
        (.obj ([host] ++ ("http", .obj [("paths", .arr [])]) :: [])) :=
      .image (.unknown (by decide))
    have inRules : (Format.list IngressRule.format).Edit (.arr ([] ++ _ :: []))
        (.arr ([] ++ _ :: [])) :=
      .inList inRule
    have inSpec : IngressSpec.format.Edit (.obj ([] ++ ("rules", _) :: []))
        (.obj ([] ++ ("rules", _) :: [])) :=
      .image (.inMember (.tail (by decide) (.head (by decide))) .defaulted inRules)
    have inIngress : Ingress.format.Edit
        (.obj ([("metadata", .obj [])] ++ ("spec", _) :: []))
        (.obj ([("metadata", .obj [])] ++ ("spec", _) :: [])) :=
      .image (.inMember (.tail (by decide) (.head (by decide))) .required inSpec)
    exact inIngress
  · have inRule : IngressRule.format.GivesNull (.obj [host, ("visibility", .null)]) :=
      .image (.member (.tail (by decide) (.head (by decide))) rfl (by simp))
    have inRules : (Format.list IngressRule.format).GivesNull (.arr [_]) :=
      .inList List.mem_cons_self inRule
    have inSpec : IngressSpec.format.GivesNull (.obj [("rules", _)]) :=
      .image (.inMember (.tail (by decide) (.head (by decide))) .defaulted
        List.mem_cons_self inRules)
    have inIngress : Ingress.format.GivesNull (.obj [("metadata", .obj []), ("spec", _)]) :=
      .image (.inMember (.tail (by decide) (.head (by decide))) .required
        (List.mem_cons_of_mem _ List.mem_cons_self) inSpec)
    exact inIngress

end ServingOperator
