import ServingOperator.Pass.Serving
import ServingOperator.Proofs.Serving.ConfigCells
import ServingOperator.Proofs.Wire.Merging

namespace ServingOperator

theorem HighAvailability.grows (old new : HighAvailability) :
    HighAvailability.format.Grows old new :=
  fun _ _ => ⟨rfl, trivial, trivial⟩

theorem CustomCerts.grows (old new : CustomCerts) : CustomCerts.format.Grows old new :=
  fun _ _ => ⟨rfl, trivial, trivial, trivial⟩

theorem BackendSettings.grows {old new : BackendSettings}
    (typed : old.serviceType.isSome = true → new.serviceType.isSome = true) :
    BackendSettings.format.Grows old new := by
  rintro ⟨enabled, serviceType, ⟨⟩⟩ rfl
  refine ⟨rfl, trivial, ?_, trivial⟩
  rintro type rfl
  obtain ⟨kept, given⟩ := Option.isSome_iff_exists.mp (typed rfl)
  exact ⟨kept, given, trivial⟩

theorem IngressBlock.grows_select (block : IngressBlock) (backend : Backend) :
    IngressBlock.format.Grows block (block.select backend) := by
  have each : ∀ b, BackendSettings.format.Grows (block.settings b)
      ((block.select backend).settings b) := by
    intro b
    apply BackendSettings.grows
    intro typed
    rw [select, settings_map]
    by_cases selected : b = backend
    · rw [if_pos selected]
      rfl
    · rw [if_neg selected]
      exact typed
  rintro ⟨istio, kourier, contour, ⟨⟩⟩ rfl
  exact ⟨rfl, each .istio, each .kourier, each .contour, trivial⟩

theorem ConfigSections.grows_write (c : ConfigSections) (ws : List CellWrite) :
    ConfigSections.format.Grows c (c.write ws) := by
  rintro sections rfl name entries present
  have kept : ((write ⟨sections⟩ ws).section? name).isSome = true :=
    (isSome_section?_write ⟨sections⟩ ws name).mpr (.inl (by rw [section?, present]; rfl))
  obtain ⟨entries', present'⟩ := Option.isSome_iff_exists.mp kept
  refine ⟨entries', present', ?_⟩
  intro key value found
  have cell : contains ⟨sections⟩ name key = true := by
    rw [contains, get?, section?, present, Option.bind_some, found]
    rfl
  have cell' := contains_write ws cell
  rw [contains, get?, present', Option.bind_some] at cell'
  obtain ⟨value', found'⟩ := Option.isSome_iff_exists.mp cell'
  exact ⟨value', found', trivial⟩

theorem ConfigSections.eq_of_grows {old new : ConfigSections}
    (grows : ConfigSections.format.Grows old new) (empty : new.isEmpty = true) : old = new :=
  congrArg ConfigSections.mk (StringMap.eq_of_isEmpty empty fun name entries present =>
    (grows old.sections rfl name entries present).imp fun _ kept => kept.1)

namespace Registry

def fallbackIn (j : Json) : String := ((j.get? "default").bind Json.text?).getD ""

def fallbackAfter (j : Json) (written : String) : String :=
  if written = "" then fallbackIn j else written

theorem fallbackIn_fresh {j : Json} (fresh : j.members = []) : fallbackIn j = "" := by
  cases j with
  | obj members =>
    obtain rfl : members = [] := fresh
    rfl
  | _ => rfl

theorem fallbackAfter_fresh {j : Json} (fresh : j.members = []) (written : String) :
    fallbackAfter j written = written := by
  unfold fallbackAfter
  rw [fallbackIn_fresh fresh]
  exact ite_eq_right_iff.mpr Eq.symm

theorem fallbackAfter_eq_iff (j : Json) (written : String) :
    fallbackAfter j written = written ↔ ¬(written = "" ∧ fallbackIn j ≠ "") := by
  unfold fallbackAfter
  by_cases empty : written = ""
  · simp [empty]
  · simp [empty]

def Keeps (old new : Registry) : Prop :=
  ∀ component image, old.overrides.get? component = some image →
    ∃ image', new.overrides.get? component = some image'

theorem keeps_overrideWith (registry : Registry) (images : StringMap String) :
    registry.Keeps (registry.overrideWith images) := by
  intro component image found
  have merged := StringMap.get?_insertAll registry.overrides images component
  rw [found] at merged
  cases own : images.get? component with
  | none => exact ⟨image, by rw [own] at merged; exact merged⟩
  | some image' => exact ⟨image', by rw [own] at merged; exact merged⟩

theorem fallbackIn_obj {members : List (String × Json)} {registry : Registry}
    (read : Registry.format.decode (.obj members) = some registry) :
    fallbackIn (.obj members) = registry.fallback := by
  obtain ⟨parts, record, rfl⟩ := Option.map_eq_some_iff.mp read
  obtain ⟨j?, single, stored⟩ := Fields.At.found (.head (by decide)) record
  rw [fallbackIn, Json.get?_of_single? single]
  cases j? with
  | none => exact Option.some.inj stored
  | some j =>
    have stored : j.text? = some parts.1 := stored
    simp [stored]

theorem fallback_of_given {j : Json} {registry : Registry}
    (read : Registry.format.decode j = some registry) (given : fallbackIn j ≠ "") :
    registry.fallback = fallbackIn j := by
  cases j with
  | obj members => exact (fallbackIn_obj read).symm
  | _ => exact absurd rfl given

theorem mergedAs {j : Json} {old new : Registry} (read : Registry.format.decode j = some old)
    (keeps : old.Keeps new) :
    Registry.format.MergedAs new j { new with fallback := fallbackAfter j new.fallback } := by
  cases j with
  | obj members =>
    have known := fallbackIn_obj read
    obtain ⟨⟨fallback, overrides, ⟨⟩⟩, record, rfl⟩ := Option.map_eq_some_iff.mp read
    obtain ⟨⟨j?, single, stored⟩, others⟩ := Fields.decodeMembers_cons.mp record
    have grows : (Format.dict .text).Grows overrides new.overrides :=
      fun component image found => (keeps component image found).imp fun _ given => ⟨given, trivial⟩
    refine ⟨(fallbackAfter (.obj members) new.fallback, new.overrides, ()), rfl, ?_, ?_⟩
    · rw [fallbackAfter, known]
      exact Member.mergedAs_textIfAny ⟨j?, Json.occurrences_of_single? single, stored⟩ new.fallback
    · exact Fields.mergedAs_of_grows _ others ⟨Member.grows_dictIfAny grows, trivial⟩
  | arr items =>
    rw [fallbackAfter_fresh rfl]
    exact Format.mergedAs_fresh Registry.format new rfl
  | _ => cases read

theorem mergedAs_member {js : List Json} {old new : Registry}
    (read : (Member.orElse Registry.format {}).ReadFrom js old) (keeps : old.Keeps new) :
    (Member.orElse Registry.format {}).MergedAs new js
      { new with fallback := fallbackAfter (js.getLast?.getD .null) new.fallback } := by
  obtain ⟨j?, rfl, decoded⟩ := read
  refine (Member.mergedAs_of_written rfl).mpr ?_
  cases j? with
  | none =>
    rw [fallbackAfter_fresh rfl]
    exact Format.mergedAs_fresh Registry.format new rfl
  | some j => exact mergedAs decoded keeps

end Registry

theorem ResourceOverride.normalize_ne_nil (entries : List ResourceOverride) :
    normalize entries ≠ [] := by
  intro empty
  have webhook := webhook_mem_normalize entries
  rw [empty] at webhook
  cases webhook

namespace ServingSpec

section Growth

variable (spec : ServingSpec) (images : StringMap String) (domain host : Option String)
  (switch : Option Bool)

theorem highAvailability_grows :
    (Member.optional HighAvailability.format).Grows spec.highAvailability
      (spec.resolve images domain host switch).spec.highAvailability := by
  rw [resolve_eq]
  exact fun _ _ => ⟨_, rfl, HighAvailability.grows _ _⟩

theorem customCerts_grows :
    (Member.orElse CustomCerts.format {}).Grows spec.customCerts
      (spec.resolve images domain host switch).spec.customCerts :=
  CustomCerts.grows _ _

theorem registry_keeps :
    spec.registry.Keeps (spec.resolve images domain host switch).spec.registry := by
  rw [resolve_eq]
  exact spec.registry.keeps_overrideWith images

theorem resources_grows :
    (Member.listIfAny ResourceOverride.format).Grows spec.resources
      (spec.resolve images domain host switch).spec.resources := by
  rw [resolve_eq]
  have nonempty := ResourceOverride.normalize_ne_nil spec.resources
  exact (if_neg fun empty => nonempty (List.isEmpty_iff.mp empty)).mpr trivial

theorem config_grows (omitted_eq : ∀ c : ConfigSections, c.isEmpty = true → c = {}) :
    (Member.defaulted ConfigSections.format {} ConfigSections.isEmpty omitted_eq).Grows spec.config
      (spec.resolve images domain host switch).spec.config := by
  rw [config_resolve]
  have grows := ConfigSections.grows_write spec.config (ConfigSections.routineWrites images domain
    (Backend.selected spec.ingress) host ++ ConfigSections.monitoringWrites switch)
  by_cases empty : (spec.config.write (ConfigSections.routineWrites images domain
      (Backend.selected spec.ingress) host ++
        ConfigSections.monitoringWrites switch)).isEmpty = true
  · exact (if_pos empty).mpr (ConfigSections.eq_of_grows grows empty)
  · exact (if_neg empty).mpr grows

theorem ingress_grows :
    (Member.optional IngressBlock.format).Grows spec.ingress
      (spec.resolve images domain host switch).spec.ingress := by
  rw [resolve_eq]
  intro block given
  refine ⟨_, rfl, ?_⟩
  rw [given]
  exact IngressBlock.grows_select block _

end Growth

def withFallback (spec : ServingSpec) (fallback : String) : ServingSpec :=
  { spec with registry := { spec.registry with fallback } }

theorem withFallback_eq_iff (spec : ServingSpec) (fallback : String) :
    spec.withFallback fallback = spec ↔ fallback = spec.registry.fallback := by
  constructor
  · intro same
    exact congrArg (·.registry.fallback) same
  · rintro rfl
    rfl

theorem fallback_of_given {j : Json} {spec : ServingSpec}
    (read : ServingSpec.format.decode j = some spec)
    (given : Registry.fallbackIn ((j.get? "registry").getD .null) ≠ "") :
    spec.registry.fallback = Registry.fallbackIn ((j.get? "registry").getD .null) := by
  cases j with
  | obj members =>
    obtain ⟨parts, record, rfl⟩ := Option.map_eq_some_iff.mp read
    obtain ⟨j?, single, registry⟩ := Fields.At.found
      (.tail (by decide) (.tail (by decide) (.head (by decide)))) record
    rw [Json.get?_of_single? single] at given ⊢
    cases j? with
    | none => exact absurd rfl given
    | some j => exact Registry.fallback_of_given registry given
  | _ => exact absurd rfl given

theorem mergedAs_resolve {j : Json} {spec : ServingSpec}
    (read : ServingSpec.format.decode j = some spec) (images : StringMap String)
    (domain host : Option String) (switch : Option Bool) :
    let resolved := (spec.resolve images domain host switch).spec
    ServingSpec.format.MergedAs resolved j (resolved.withFallback
      (Registry.fallbackAfter ((j.get? "registry").getD .null) resolved.registry.fallback)) := by
  intro resolved
  cases j with
  | obj members =>
    -- The members are taken one by one, since the registry among them need not grow.
    obtain ⟨parts, record, built⟩ := Option.map_eq_some_iff.mp read
    obtain rfl : parts = (spec.highAvailability, spec.customCerts, spec.registry, spec.resources,
        spec.config, spec.ingress, ()) := by
      subst built
      rfl
    obtain ⟨⟨_, single, availability⟩, record⟩ := Fields.decodeMembers_cons.mp record
    have availability := Member.mergedAs_of_grows _
      ⟨_, Json.occurrences_of_single? single, availability⟩
      (highAvailability_grows spec images domain host switch)
    obtain ⟨⟨_, single, certs⟩, record⟩ := Fields.decodeMembers_cons.mp record
    have certs := Member.mergedAs_of_grows _ ⟨_, Json.occurrences_of_single? single, certs⟩
      (customCerts_grows spec images domain host switch)
    obtain ⟨⟨_, single, registry⟩, record⟩ := Fields.decodeMembers_cons.mp record
    have registry := Registry.mergedAs_member ⟨_, Json.occurrences_of_single? single, registry⟩
      (registry_keeps spec images domain host switch)
    refine ⟨(resolved.highAvailability, resolved.customCerts, _, resolved.resources,
      resolved.config, resolved.ingress, ()), rfl, availability, certs, registry, ?_⟩
    exact Fields.mergedAs_of_grows _ record ⟨resources_grows spec images domain host switch,
      config_grows spec images domain host switch _,
      ingress_grows spec images domain host switch, trivial⟩
  | arr items =>
    -- An array is replaced as a whole, and the fallback in it with the rest.
    rw [Registry.fallbackAfter_fresh rfl]
    exact Format.mergedAs_fresh ServingSpec.format resolved rfl
  | _ => cases read

end ServingSpec

namespace KnativeServing

theorem decode_statusChanges (status : ServingStatus) (members : List (String × Json)) :
    ∃ changes, statusPatch status = .obj [("status", .obj changes)] ∧
      ServingStatus.format.decode (.obj (Json.mergeMembers changes members)) = some status := by
  obtain ⟨version, generation, conditions⟩ := status
  let changes : List (String × Json) :=
    [("version", (version.map Json.str).getD .null),
      ("observedGeneration", (generation.map fun n => Json.int n.toInt).getD .null),
      ("conditions", .arr (conditions.map Condition.format.encode))]
  have patch : statusPatch ⟨version, generation, conditions⟩ = .obj [("status", .obj changes)] := by
    cases version <;> cases generation <;> rfl
  -- Every member is named, so that nothing of what was stored under its key is left.
  have named (key : String) (j : Json) (only : Json.occurrences key changes = [j]) :
      Json.occurrences key (Json.mergeMembers changes members) =
        Json.replaced (some j) (Json.occurrences key members) :=
    Json.occurrences_mergeMembers (show _ = (some j).toList from only) members
  refine ⟨changes, patch, ?_⟩
  refine Option.map_eq_some_iff.mpr ⟨(version, generation, conditions, ()), ?_, rfl⟩
  refine Fields.decodeMembers_of_readFrom _ ⟨?_, ?_, ?_, trivial⟩
  · rw [named "version" _ rfl]
    exact Member.readFrom_orNull .text rfl nofun version _
  · rw [named "observedGeneration" _ rfl]
    exact Member.readFrom_orNull .int64 rfl nofun generation _
  · have items : Json.arr (conditions.map Condition.format.encode) ≠ .null := nofun
    rw [named "conditions" _ rfl, Json.replaced_leaf items nofun]
    refine ⟨some _, rfl, ?_⟩
    exact mapM_map_eq_some (Condition.format.decode_encode (by decide)) conditions

def registryIn (document : Json) : Json :=
  (((document.get? "spec").getD .null).get? "registry").getD .null

theorem fallback_of_given {document : Json} {serving : KnativeServing}
    (read : KnativeServing.format.decode document = some serving)
    (given : Registry.fallbackIn (registryIn document) ≠ "") :
    serving.spec.registry.fallback = Registry.fallbackIn (registryIn document) := by
  cases document with
  | obj members =>
    obtain ⟨parts, record, rfl⟩ := Option.map_eq_some_iff.mp read
    obtain ⟨j?, single, spec⟩ := Fields.At.found (.tail (by decide) (.head (by decide))) record
    obtain ⟨j, rfl, spec⟩ := Option.bind_eq_some_iff.mp spec
    rw [registryIn, Json.get?_of_single? single] at given ⊢
    exact ServingSpec.fallback_of_given spec given
  | _ => exact absurd rfl given

def storedSpec (document : Json) (spec : ServingSpec) : ServingSpec :=
  spec.withFallback (Registry.fallbackAfter (registryIn document) spec.registry.fallback)

/-- A document is an object, and an installation is what it is read as. -/
structure IsStoredIn (serving : KnativeServing) (document : Json) : Prop where
  object : ∃ members, document = .obj members
  read : KnativeServing.format.decode document = some serving

namespace IsStoredIn

variable {serving : KnativeServing} {document : Json}

theorem storedSpec_self (stored : serving.IsStoredIn document) :
    storedSpec document serving.spec = serving.spec := by
  rw [storedSpec, ServingSpec.withFallback_eq_iff, Registry.fallbackAfter_eq_iff]
  rintro ⟨empty, given⟩
  rw [fallback_of_given stored.read given] at empty
  exact given empty

/-- A resolved spec is stored as it is, apart from a fallback image that is not written. -/
theorem specPatch (stored : serving.IsStoredIn document) (images : StringMap String)
    (domain host : Option String) (switch : Option Bool) :
    let resolved := (serving.spec.resolve images domain host switch).spec
    IsStoredIn { serving with spec := storedSpec document resolved }
      ((specPatch resolved).mergeInto document) := by
  intro resolved
  obtain ⟨⟨members, rfl⟩, read⟩ := stored
  obtain ⟨parts, record, rfl⟩ := Option.map_eq_some_iff.mp read
  obtain ⟨j?, found, spec⟩ := Fields.At.found (.tail (by decide) (.head (by decide))) record
  obtain ⟨j, rfl, spec⟩ := Option.bind_eq_some_iff.mp spec
  have merged := Format.decode_mergeInto ServingSpec.format (by decide)
    (ServingSpec.mergedAs_resolve spec images domain host switch)
  have put := Fields.At.decodeMembers_put (.tail (by decide) (.head (by decide))) record
    (show (Member.required ServingSpec.format).decode (some _) = some _ from merged)
  rw [KnativeServing.specPatch, Json.mergeInto_singleton _
    (ServingSpec.format.encode_ne_null resolved), storedSpec, registryIn,
    Json.get?_of_single? found]
  exact ⟨⟨_, rfl⟩, Option.map_eq_some_iff.mpr ⟨_, put, rfl⟩⟩

theorem statusPatch (stored : serving.IsStoredIn document) (status : ServingStatus) :
    IsStoredIn { serving with status := some status }
      ((statusPatch status).mergeInto document) := by
  obtain ⟨⟨members, rfl⟩, read⟩ := stored
  obtain ⟨parts, record, rfl⟩ := Option.map_eq_some_iff.mp read
  obtain ⟨changes, patch, merged⟩ := decode_statusChanges status
    (((Json.obj members).get? "status").getD .null).members
  have put := Fields.At.decodeMembers_put
    (.tail (by decide) (.tail (by decide) (.head (by decide)))) record
    (show (Member.optional ServingStatus.format).decode (some (.obj _)) = some (some status) from
      congrArg (Option.map some) merged)
  have named : Json.obj changes ≠ .null := nofun
  rw [patch, Json.mergeInto_singleton _ named, Json.mergeInto]
  exact ⟨⟨_, rfl⟩, Option.map_eq_some_iff.mpr ⟨_, put, rfl⟩⟩

end IsStoredIn

end KnativeServing

end ServingOperator
