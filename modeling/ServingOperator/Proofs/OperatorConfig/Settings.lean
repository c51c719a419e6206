import Mathlib.Data.List.Induction
import ServingOperator.OperatorConfig
import ServingOperator.Proofs.StringMap
import ServingOperator.Proofs.Text

namespace ServingOperator.OperatorConfig

open StringMap

inductive SpellsSwitch : String → Bool → Prop where
  | on {value : String} (listed : value ∈ ["1", "t", "T", "true", "TRUE", "True"]) :
      SpellsSwitch value true
  | off {value : String} (listed : value ∈ ["0", "f", "F", "false", "FALSE", "False"]) :
      SpellsSwitch value false

def SpellsPort (value : String) (port : UInt16) : Prop :=
  ∃ numeral : Text.Numeral 65536,
    (value.toList = numeral.digits ∨ value.toList = '+' :: numeral.digits) ∧
      numeral.value = port.toNat

inductive Refuses : String × String → ConfigError → Prop where
  | switch {name value : String} (named : name = "ENABLE_SERVING_MONITORING_BY_DEFAULT")
      (unspelled : ∀ switch, ¬SpellsSwitch value switch) :
      Refuses (name, value) (.notBoolean name value)
  | port {name value : String} (named : name = "HEALTH_PORT")
      (unspelled : ∀ port, ¬SpellsPort value port) :
      Refuses (name, value) (.notPortNumber name value)

theorem Refuses.unique {s : String × String} {a b : ConfigError} (h : Refuses s a)
    (h' : Refuses s b) : a = b := by
  rcases h with ⟨named, -⟩ | ⟨named, -⟩ <;> rcases h' with ⟨named', -⟩ | ⟨named', -⟩
  · rfl
  · simp [named] at named'
  · simp [named] at named'
  · rfl

theorem not_refuses {name value : String}
    (switch : name = "ENABLE_SERVING_MONITORING_BY_DEFAULT" → ∃ on, SpellsSwitch value on)
    (port : name = "HEALTH_PORT" → ∃ number, SpellsPort value number) (e : ConfigError) :
    ¬Refuses (name, value) e := by
  rintro (⟨named, unspelled⟩ | ⟨named, unspelled⟩)
  · obtain ⟨on, spelled⟩ := switch named
    exact unspelled on spelled
  · obtain ⟨number, spelled⟩ := port named
    exact unspelled number spelled

theorem readSwitch?_eq_some_iff {value : String} {switch : Bool} :
    readSwitch? value = some switch ↔ SpellsSwitch value switch := by
  unfold readSwitch?
  constructor
  · intro read
    split at read
    · rename_i listed
      cases read
      exact .on (List.contains_iff_mem.mp listed)
    · split at read
      · rename_i listed
        cases read
        exact .off (List.contains_iff_mem.mp listed)
      · cases read
  · rintro (⟨listed⟩ | ⟨listed⟩)
    · rw [if_pos (List.contains_iff_mem.mpr listed)]
    · have other : value ∉ ["1", "t", "T", "true", "TRUE", "True"] := by
        simp only [List.mem_cons, List.not_mem_nil, or_false] at listed
        rcases listed with rfl | rfl | rfl | rfl | rfl | rfl <;> decide
      rw [if_neg (by simpa only [List.contains_iff_mem] using other),
        if_pos (List.contains_iff_mem.mpr listed)]

theorem readPort?_eq_some_iff {value : String} {port : UInt16} :
    readPort? value = some port ↔ SpellsPort value port := by
  have number (n : Nat) (numeral : Text.Numeral 65536) (same : numeral.value = n) :
      UInt16.ofNat n = port ↔ numeral.value = port.toNat := by
    have fits : n < 65536 := same ▸ numeral.fits
    rw [← UInt16.toNat_inj, UInt16.toNat_ofNat_of_lt' fits, same]
  unfold readPort?
  rw [Option.map_eq_some_iff]
  constructor
  · rintro ⟨n, read, made⟩
    obtain ⟨numeral, digits, same⟩ := Text.natBelow?_eq_some_iff.mp read
    refine ⟨numeral, ?_, (number n numeral same).mp made⟩
    rw [digits]
    split
    · rename_i rest plus
      exact .inr plus
    · exact .inl rfl
  · rintro ⟨numeral, written, same⟩
    refine ⟨numeral.value, Text.natBelow?_eq_some_iff.mpr ⟨numeral, ?_, rfl⟩,
      (number _ numeral rfl).mpr same⟩
    rcases written with plain | signed
    · rw [plain]
      split
      · rename_i rest plus
        exact absurd (plus ▸ List.mem_cons_self) (numeral.not_mem (c := '+') (by decide))
      · rfl
    · rw [signed]
      rfl

theorem imageComponent?_eq_some_iff {name component : String} :
    imageComponent? name = some component ↔ name = "IMAGE_" ++ component := by
  unfold imageComponent?
  constructor
  · intro found
    obtain ⟨marked, made⟩ := Option.ite_none_right_eq_some.mp found
    obtain ⟨rest, split⟩ := List.isPrefixOf_iff_prefix.mp marked
    have behind : name.toList.drop imageMark.length = rest := by
      rw [← split]
      exact List.drop_left
    rw [behind] at made
    cases made
    rw [← String.toList_inj, ← split, String.toList_append]
    exact congrArg (imageMark.toList ++ ·) String.toList_ofList.symm
  · rintro rfl
    have marked : imageMark.toList.isPrefixOf ("IMAGE_" ++ component).toList = true := by
      rw [String.toList_append]
      exact List.isPrefixOf_iff_prefix.mpr (List.prefix_append _ _)
    have behind : ("IMAGE_" ++ component).toList.drop imageMark.length = component.toList := by
      rw [String.toList_append]
      exact List.drop_left
    rw [if_pos marked, behind, String.ofList_toList]

structure Takes (config : OperatorConfig) (name value : String) (config' : OperatorConfig) :
    Prop where
  requiredNamespace : config'.requiredNamespace =
    if name = "REQUIRED_SERVING_NAMESPACE" ∧ value ≠ "" then some value
    else config.requiredNamespace
  minimumVersion : config'.minimumVersion =
    if name = "MIN_KUBERNETES_VERSION" ∧ value ≠ "" then value else config.minimumVersion
  monitoring : if name = "ENABLE_SERVING_MONITORING_BY_DEFAULT" then
      ∃ switch, SpellsSwitch value switch ∧ config'.monitoring = some switch
    else config'.monitoring = config.monitoring
  healthPort : if name = "HEALTH_PORT" then SpellsPort value config'.healthPort
    else config'.healthPort = config.healthPort
  images : ∀ component, config'.images.get? component =
    if component ≠ "" ∧ name = "IMAGE_" ++ component then some value
    else config.images.get? component

theorem set_of_image (config : OperatorConfig) {name component : String} (value : String)
    (named : imageComponent? name = some component) :
    (∀ e, ¬Refuses (name, value) e) ∧
      ∃ config', config.set name value = .ok config' ∧ config.Takes name value config' := by
  have apart (other : String) (unmarked : imageComponent? other = none) : name ≠ other := by
    rintro rfl
    rw [unmarked] at named
    cases named
  have notNamespace : name ≠ "REQUIRED_SERVING_NAMESPACE" := apart _ (by decide)
  have notVersion : name ≠ "MIN_KUBERNETES_VERSION" := apart _ (by decide)
  have notSwitch : name ≠ "ENABLE_SERVING_MONITORING_BY_DEFAULT" := apart _ (by decide)
  have notPort : name ≠ "HEALTH_PORT" := apart _ (by decide)
  have image (other : String) : name = "IMAGE_" ++ other ↔ component = other := by
    rw [← imageComponent?_eq_some_iff, named, Option.some.injEq]
  refine ⟨not_refuses (absurd · notSwitch) (absurd · notPort), ?_⟩
  unfold set
  rw [named]
  by_cases empty : component = ""
  · refine ⟨config, if_pos empty, ?_⟩
    subst empty
    constructor <;> simp [notNamespace, notVersion, notSwitch, notPort, image]
  · refine ⟨_, if_neg empty, ?_⟩
    constructor <;> simp [notNamespace, notVersion, notSwitch, notPort, image]
    intro other
    rw [StringMap.get?_insert]
    by_cases same : component = other
    · subst same
      simp [empty]
    · simp [same]

theorem set_of_plain (config : OperatorConfig) {name : String} (value : String)
    (named : imageComponent? name = none) :
    (∃ e, Refuses (name, value) e ∧ config.set name value = .error e) ∨
      (∀ e, ¬Refuses (name, value) e) ∧
        ∃ config', config.set name value = .ok config' ∧ config.Takes name value config' := by
  have image (component : String) : name ≠ "IMAGE_" ++ component := by
    intro same
    rw [imageComponent?_eq_some_iff.mpr same] at named
    cases named
  by_cases isNamespace : name = "REQUIRED_SERVING_NAMESPACE"
  · subst isNamespace
    refine .inr ⟨not_refuses (by simp) (by simp), _, rfl, ?_⟩
    by_cases empty : value = "" <;> constructor <;> simp [image, empty]
  by_cases isVersion : name = "MIN_KUBERNETES_VERSION"
  · subst isVersion
    refine .inr ⟨not_refuses (by simp) (by simp), _, rfl, ?_⟩
    by_cases empty : value = "" <;> constructor <;> simp [image, empty]
  by_cases isSwitch : name = "ENABLE_SERVING_MONITORING_BY_DEFAULT"
  · subst isSwitch
    cases read : readSwitch? value with
    | none =>
      have refused : config.set "ENABLE_SERVING_MONITORING_BY_DEFAULT" value =
          .error (.notBoolean "ENABLE_SERVING_MONITORING_BY_DEFAULT" value) := by
        simp [set, named, read, requiredNamespaceName, minimumVersionName, monitoringName]
      refine .inl ⟨_, .switch rfl fun switch spelled => ?_, refused⟩
      rw [readSwitch?_eq_some_iff.mpr spelled] at read
      cases read
    | some switch =>
      have taken : config.set "ENABLE_SERVING_MONITORING_BY_DEFAULT" value =
          .ok { config with monitoring := some switch } := by
        simp [set, named, read, requiredNamespaceName, minimumVersionName, monitoringName]
      have spelled := readSwitch?_eq_some_iff.mp read
      refine .inr ⟨not_refuses (fun _ => ⟨switch, spelled⟩) (by simp), _, taken, ?_⟩
      constructor <;> simp [image, spelled]
  by_cases isPort : name = "HEALTH_PORT"
  · subst isPort
    cases read : readPort? value with
    | none =>
      have refused : config.set "HEALTH_PORT" value =
          .error (.notPortNumber "HEALTH_PORT" value) := by
        simp [set, named, read, requiredNamespaceName, minimumVersionName, monitoringName,
          healthPortName]
      refine .inl ⟨_, .port rfl fun port spelled => ?_, refused⟩
      rw [readPort?_eq_some_iff.mpr spelled] at read
      cases read
    | some port =>
      have taken : config.set "HEALTH_PORT" value = .ok { config with healthPort := port } := by
        simp [set, named, read, requiredNamespaceName, minimumVersionName, monitoringName,
          healthPortName]
      have spelled := readPort?_eq_some_iff.mp read
      refine .inr ⟨not_refuses (by simp) (fun _ => ⟨port, spelled⟩), _, taken, ?_⟩
      constructor <;> simp [image, spelled]
  · refine .inr ⟨not_refuses (absurd · isSwitch) (absurd · isPort), config, ?_, ?_⟩
    · unfold set
      rw [named]
      exact (if_neg isNamespace).trans <| (if_neg isVersion).trans <|
        (if_neg isSwitch).trans (if_neg isPort)
    · constructor <;> simp [isNamespace, isVersion, isSwitch, isPort, image]

theorem set_cases (config : OperatorConfig) (name value : String) :
    (∃ e, Refuses (name, value) e ∧ config.set name value = .error e) ∨
      (∀ e, ¬Refuses (name, value) e) ∧
        ∃ config', config.set name value = .ok config' ∧ config.Takes name value config' := by
  cases named : imageComponent? name with
  | some component => exact .inr (config.set_of_image value named)
  | none => exact config.set_of_plain value named

def lastGiven? (name : String) (settings : List (String × String)) : Option String :=
  ((valuesOf name settings).filter (· ≠ "")).getLast?

/-- A configuration as the last values of the names describe it. -/
structure Describes (settings : List (String × String)) (config : OperatorConfig) : Prop where
  requiredNamespace :
    config.requiredNamespace = lastGiven? "REQUIRED_SERVING_NAMESPACE" settings
  minimumVersion :
    config.minimumVersion = (lastGiven? "MIN_KUBERNETES_VERSION" settings).getD "1.20.0"
  monitoring : match (valuesOf "ENABLE_SERVING_MONITORING_BY_DEFAULT" settings).getLast? with
    | some value => ∃ switch, SpellsSwitch value switch ∧ config.monitoring = some switch
    | none => config.monitoring = none
  healthPort : match (valuesOf "HEALTH_PORT" settings).getLast? with
    | some value => SpellsPort value config.healthPort
    | none => config.healthPort = 8080
  images : ∀ component, config.images.get? component =
    if component = "" then none else (valuesOf ("IMAGE_" ++ component) settings).getLast?

theorem getLast?_valuesOf_concat (key name value : String) (settings : List (String × String)) :
    (valuesOf key (settings ++ [(name, value)])).getLast? =
      if name = key then some value else (valuesOf key settings).getLast? := by
  rw [valuesOf_append]
  by_cases same : name = key <;> simp [valuesOf, same]

theorem lastGiven?_concat (key name value : String) (settings : List (String × String)) :
    lastGiven? key (settings ++ [(name, value)]) =
      if name = key ∧ value ≠ "" then some value else lastGiven? key settings := by
  rw [lastGiven?, valuesOf_append]
  by_cases same : name = key <;> by_cases empty : value = "" <;>
    simp [lastGiven?, valuesOf, same, empty]

theorem describes_nil : Describes [] {} where
  requiredNamespace := rfl
  minimumVersion := rfl
  monitoring := rfl
  healthPort := rfl
  images _ := (ite_self none).symm

theorem Describes.concat {settings : List (String × String)} {config config' : OperatorConfig}
    {name value : String} (before : Describes settings config)
    (taken : config.Takes name value config') :
    Describes (settings ++ [(name, value)]) config' where
  requiredNamespace := by
    rw [taken.requiredNamespace, lastGiven?_concat, before.requiredNamespace]
  minimumVersion := by
    rw [taken.minimumVersion, lastGiven?_concat, before.minimumVersion]
    split <;> rfl
  monitoring := by
    have step := taken.monitoring
    rw [getLast?_valuesOf_concat]
    split at step
    · rename_i named
      rw [if_pos named]
      exact step
    · rename_i other
      rw [if_neg other, step]
      exact before.monitoring
  healthPort := by
    have step := taken.healthPort
    rw [getLast?_valuesOf_concat]
    split at step
    · rename_i named
      rw [if_pos named]
      exact step
    · rename_i other
      rw [if_neg other, step]
      exact before.healthPort
  images component := by
    rw [taken.images, getLast?_valuesOf_concat, before.images]
    by_cases empty : component = "" <;> simp [empty]

theorem SpellsSwitch.unique {value : String} {a b : Bool} (h : SpellsSwitch value a)
    (h' : SpellsSwitch value b) : a = b := by
  rw [← readSwitch?_eq_some_iff] at h h'
  exact Option.some.inj (h.symm.trans h')

theorem SpellsPort.unique {value : String} {a b : UInt16} (h : SpellsPort value a)
    (h' : SpellsPort value b) : a = b := by
  rw [← readPort?_eq_some_iff] at h h'
  exact Option.some.inj (h.symm.trans h')

theorem Describes.unique {settings : List (String × String)} {a b : OperatorConfig}
    (h : Describes settings a) (h' : Describes settings b) : a = b := by
  have space := h.requiredNamespace.trans h'.requiredNamespace.symm
  have version := h.minimumVersion.trans h'.minimumVersion.symm
  have images : a.images = b.images :=
    StringMap.ext_get? fun component => (h.images component).trans (h'.images component).symm
  have monitoring : a.monitoring = b.monitoring := by
    have first := h.monitoring
    have second := h'.monitoring
    cases last : (valuesOf "ENABLE_SERVING_MONITORING_BY_DEFAULT" settings).getLast? with
    | some value =>
      rw [last] at first second
      obtain ⟨switch, spelled, same⟩ := first
      obtain ⟨switch', spelled', same'⟩ := second
      rw [same, same', spelled.unique spelled']
    | none =>
      rw [last] at first second
      exact first.trans second.symm
  have port : a.healthPort = b.healthPort := by
    have first := h.healthPort
    have second := h'.healthPort
    cases last : (valuesOf "HEALTH_PORT" settings).getLast? with
    | some value =>
      rw [last] at first second
      exact first.unique second
    | none =>
      rw [last] at first second
      exact first.trans second.symm
  cases a
  cases b
  simp_all

theorem ofSettings_append (front back : List (String × String)) :
    ofSettings (front ++ back) = (ofSettings front).bind fun config =>
      back.foldlM (fun config s => config.set s.1 s.2) config :=
  List.foldlM_append

def FirstRefused (settings : List (String × String)) (e : ConfigError) : Prop :=
  ∃ before s after, settings = before ++ s :: after ∧ (∀ other ∈ before, ∀ e, ¬Refuses other e) ∧
    Refuses s e

theorem ofSettings_cases (settings : List (String × String)) :
    (∃ e, FirstRefused settings e ∧ ofSettings settings = .error e) ∨
      (∀ s ∈ settings, ∀ e, ¬Refuses s e) ∧
        ∃ config, ofSettings settings = .ok config ∧ Describes settings config := by
  -- From the end of the list, where the setting stands that is taken over last.
  induction settings using List.reverseRecOn with
  | nil => exact .inr ⟨by simp, {}, rfl, describes_nil⟩
  | append_singleton settings s ih =>
    obtain ⟨name, value⟩ := s
    rw [ofSettings_append]
    rcases ih with ⟨e, first, failed⟩ | ⟨readable, config, read, described⟩
    · obtain ⟨before, s, after, rfl, readable, refused⟩ := first
      rw [failed]
      refine .inl ⟨e, ⟨before, s, after ++ [(name, value)], ?_, readable, refused⟩, rfl⟩
      rw [List.append_assoc, List.cons_append]
    · rw [read]
      have last : [(name, value)].foldlM (fun config s => config.set s.1 s.2) config =
          config.set name value := by simp
      rcases config.set_cases name value with ⟨e, refused, failed⟩ | ⟨accepted, config', set, taken⟩
      · exact .inl ⟨e, ⟨settings, (name, value), [], rfl, readable, refused⟩, last.trans failed⟩
      · refine .inr ⟨fun s member => ?_, config', last.trans set, described.concat taken⟩
        rcases List.mem_append.mp member with earlier | own
        · exact readable s earlier
        · exact List.mem_singleton.mp own ▸ accepted

theorem ofSettings_of_firstRefused {settings : List (String × String)} {e : ConfigError}
    (first : FirstRefused settings e) : ofSettings settings = .error e := by
  obtain ⟨before, ⟨name, value⟩, after, rfl, readable, refused⟩ := first
  rcases ofSettings_cases before with ⟨e', early, -⟩ | ⟨-, config, read, -⟩
  · obtain ⟨front, s, back, rfl, -, refused'⟩ := early
    exact absurd refused' (readable s (by simp) e')
  · rcases config.set_cases name value with ⟨e', refused', failed⟩ | ⟨accepted, -⟩
    · rw [ofSettings_append, read, refused.unique refused']
      show (config.set name value).bind _ = _
      rw [failed]
      rfl
    · exact absurd refused (accepted e)

theorem ofSettings_eq_error_iff {settings : List (String × String)} {e : ConfigError} :
    ofSettings settings = .error e ↔ FirstRefused settings e := by
  refine ⟨fun failed => ?_, ofSettings_of_firstRefused⟩
  rcases ofSettings_cases settings with ⟨e', first, failed'⟩ | ⟨-, config, read, -⟩
  · rw [failed] at failed'
    cases failed'
    exact first
  · rw [failed] at read
    cases read

theorem ofSettings_eq_ok_iff {settings : List (String × String)} {config : OperatorConfig} :
    ofSettings settings = .ok config ↔
      (∀ s ∈ settings, ∀ e, ¬Refuses s e) ∧ Describes settings config := by
  rcases ofSettings_cases settings with ⟨e, first, failed⟩ | ⟨readable, config', read, described⟩
  · obtain ⟨before, s, after, rfl, -, refused⟩ := first
    rw [failed]
    constructor
    · intro read
      cases read
    · rintro ⟨readable, -⟩
      exact absurd refused (readable s (by simp) e)
  · rw [read]
    constructor
    · intro same
      cases same
      exact ⟨readable, described⟩
    · rintro ⟨-, described'⟩
      rw [described.unique described']

theorem Describes.of_perm {settings other : List (String × String)} {config : OperatorConfig}
    (once : (settings.map (·.1)).Nodup) (perm : settings.Perm other)
    (h : Describes settings config) : Describes other config := by
  have same := valuesOf_of_perm once perm
  constructor <;> simp only [lastGiven?, ← same]
  · exact h.requiredNamespace
  · exact h.minimumVersion
  · exact h.monitoring
  · exact h.healthPort
  · exact h.images

theorem ofSettings_eq_ok_of_perm {settings other : List (String × String)}
    (once : (settings.map (·.1)).Nodup) (perm : settings.Perm other) {config : OperatorConfig}
    (read : ofSettings settings = .ok config) : ofSettings other = .ok config := by
  obtain ⟨readable, described⟩ := ofSettings_eq_ok_iff.mp read
  exact ofSettings_eq_ok_iff.mpr
    ⟨fun s member => readable s (perm.mem_iff.mpr member), described.of_perm once perm⟩

/-- Reading settings fails if one of them cannot be read, with what is said about the first of
    these. Otherwise it gives what the last values describe, so that the order of the settings does
    not matter where no name is repeated. -/
theorem ofSettings_described (settings : List (String × String)) :
    ((∃ e, ofSettings settings = .error e) ↔ ∃ s ∈ settings, ∃ e, Refuses s e) ∧
      (∀ e, ofSettings settings = .error e ↔ FirstRefused settings e) ∧
      (∀ config, ofSettings settings = .ok config ↔
        (∀ s ∈ settings, ∀ e, ¬Refuses s e) ∧ Describes settings config) ∧
      ∀ other, (settings.map (·.1)).Nodup → settings.Perm other →
        ∀ config, ofSettings settings = .ok config ↔ ofSettings other = .ok config := by
  refine ⟨⟨?_, ?_⟩, fun e => ofSettings_eq_error_iff, fun config => ofSettings_eq_ok_iff, ?_⟩
  · rintro ⟨e, failed⟩
    obtain ⟨before, s, after, rfl, -, refused⟩ := ofSettings_eq_error_iff.mp failed
    exact ⟨s, by simp, e, refused⟩
  · rintro ⟨s, member, e, refused⟩
    rcases ofSettings_cases settings with ⟨e', -, failed⟩ | ⟨readable, -⟩
    · exact ⟨e', failed⟩
    · exact absurd refused (readable s member e)
  · intro other once perm config
    have once' : (other.map (·.1)).Nodup := (perm.map _).nodup_iff.mp once
    exact ⟨ofSettings_eq_ok_of_perm once perm, ofSettings_eq_ok_of_perm once' perm.symm⟩

example : ofSettings [("PATH", "/bin"), ("HEALTH_PORT", "http"), ("HEALTH_PORT", "80")] =
    .error (.notPortNumber "HEALTH_PORT" "http") := by
  rfl

def mixedSettings : List (String × String) :=
  [("IMAGE_queue-proxy", ""), ("HEALTH_PORT", "+09090"), ("REQUIRED_SERVING_NAMESPACE", ""),
    ("ENABLE_SERVING_MONITORING_BY_DEFAULT", "f"), ("IMAGE_", "none"), ("PATH", "/bin")]

theorem ofSettings_described_reversed :
    (mixedSettings.map (·.1)).Nodup ∧ mixedSettings.Perm mixedSettings.reverse ∧
      ∃ config, ofSettings mixedSettings = .ok config ∧
        ofSettings mixedSettings.reverse = .ok config ∧ config.healthPort = 9090 ∧
        config.images.get? "queue-proxy" = some "" ∧ config.requiredNamespace = none := by
  have once : (mixedSettings.map (·.1)).Nodup := by decide
  have perm : mixedSettings.Perm mixedSettings.reverse := by decide
  obtain ⟨-, -, -, order⟩ := ofSettings_described mixedSettings
  refine ⟨once, perm, _, rfl, (order _ once perm _).mp rfl, rfl, rfl, rfl⟩

end ServingOperator.OperatorConfig
