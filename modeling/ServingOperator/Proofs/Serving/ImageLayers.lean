import ServingOperator.Proofs.Serving.SpecResolution

namespace ServingOperator

theorem StringMap.insertAll_assoc {α : Type} (a b c : StringMap α) :
    (a.insertAll b).insertAll c = a.insertAll (b.insertAll c) := by
  apply ext_get?
  intro key
  simp only [get?_insertAll, Option.or_assoc]

def StringMap.IsOverlay {α : Type} (both earlier later : StringMap α) : Prop :=
  ∀ key, both.get? key = (later.get? key).or (earlier.get? key)

theorem StringMap.IsOverlay.eq {α : Type} {both earlier later : StringMap α}
    (h : both.IsOverlay earlier later) : both = earlier.insertAll later :=
  ext_get? fun key => (h key).trans (get?_insertAll earlier later key).symm

namespace Registry

theorem image?_overrideWith (registry : Registry) (images : StringMap String)
    (component : String) :
    (registry.overrideWith images).image? component =
      match images.get? component, registry.overrides.get? component with
      | some image, _ => some image
      | none, some image => some image
      | none, none =>
        let fallback := (images.get? "default").getD registry.fallback
        if fallback = "" then none else some fallback := by
  unfold image? overrideWith
  rw [StringMap.get?_insertAll]
  cases images.get? component with
  | some image => rfl
  | none => cases registry.overrides.get? component <;> rfl

theorem overrideWith_insertAll (registry : Registry) (earlier later : StringMap String) :
    (registry.overrideWith earlier).overrideWith later =
      registry.overrideWith (earlier.insertAll later) := by
  unfold overrideWith
  rw [StringMap.insertAll_assoc, StringMap.get?_insertAll]
  cases later.get? fallbackComponent <;> rfl

end Registry

namespace ConfigSections

theorem applySidecarImage_cases (c : ConfigSections) (images : StringMap String) :
    c.applySidecarImage images =
      match c.get? "deployment" "queueSidecarImage", images.get? "queue-proxy" with
      | none, some image => c.set "deployment" "queueSidecarImage" image
      | _, _ => c := by
  unfold applySidecarImage
  cases given : c.get? "deployment" "queueSidecarImage" with
  | none =>
    have absent : c.contains ConfigKey.deployment ConfigKey.queueSidecarImage = false := by
      rw [contains, ConfigKey.deployment, ConfigKey.queueSidecarImage, given]
      rfl
    cases images.get? "queue-proxy" with
    | none => rfl
    | some image => exact fill_of_absent absent image
  | some value =>
    have present : c.contains ConfigKey.deployment ConfigKey.queueSidecarImage = true := by
      rw [contains, ConfigKey.deployment, ConfigKey.queueSidecarImage, given]
      rfl
    cases images.get? "queue-proxy" with
    | none => rfl
    | some image => exact fill_of_contains present image

theorem get?_applySidecarImage (c : ConfigSections) (images : StringMap String)
    (name key : String) :
    (c.applySidecarImage images).get? name key =
      if name = "deployment" ∧ key = "queueSidecarImage" then
        (c.get? name key).or (images.get? "queue-proxy")
      else c.get? name key := by
  rw [applySidecarImage_cases]
  by_cases here : name = "deployment" ∧ key = "queueSidecarImage"
  · obtain ⟨rfl, rfl⟩ := here
    rw [if_pos ⟨rfl, rfl⟩]
    cases given : c.get? "deployment" "queueSidecarImage" <;>
      cases images.get? "queue-proxy" <;> simp [get?_set, given]
  · rw [if_neg here]
    have elsewhere : ¬("deployment" = name ∧ "queueSidecarImage" = key) :=
      fun same => here ⟨same.1.symm, same.2.symm⟩
    split
    · rw [get?_set, if_neg elsewhere]
    · rfl

theorem applySidecarImage_of_given {c : ConfigSections}
    (given : (c.get? "deployment" "queueSidecarImage").isSome = true) (images : StringMap String) :
    c.applySidecarImage images = c := by
  obtain ⟨image, given⟩ := Option.isSome_iff_exists.mp given
  rw [applySidecarImage_cases, given]

theorem applySidecarImage_congr (c : ConfigSections) {images images' : StringMap String}
    (same : images.get? "queue-proxy" = images'.get? "queue-proxy") :
    c.applySidecarImage images = c.applySidecarImage images' := by
  rw [applySidecarImage_cases, applySidecarImage_cases, same]

theorem applySidecarImage_of_no_image (c : ConfigSections) {images : StringMap String}
    (absent : images.get? "queue-proxy" = none) : c.applySidecarImage images = c := by
  rw [applySidecarImage_cases, absent]
  cases c.get? "deployment" "queueSidecarImage" <;> rfl

theorem given_applySidecarImage {c : ConfigSections} {images : StringMap String} {image : String}
    (given : images.get? "queue-proxy" = some image) :
    ((c.applySidecarImage images).get? "deployment" "queueSidecarImage").isSome = true := by
  rw [get?_applySidecarImage, if_pos ⟨rfl, rfl⟩, given]
  cases c.get? "deployment" "queueSidecarImage" <;> rfl

theorem applySidecarImage_twice (c : ConfigSections) (images : StringMap String) :
    (c.applySidecarImage images).applySidecarImage images = c.applySidecarImage images := by
  cases given : images.get? "queue-proxy" with
  | none => exact applySidecarImage_of_no_image _ given
  | some image => exact applySidecarImage_of_given (given_applySidecarImage given) images

theorem applySidecarImage_overlay_iff (c : ConfigSections) {both earlier later : StringMap String}
    (overlay : both.IsOverlay earlier later) :
    (c.applySidecarImage earlier).applySidecarImage later = c.applySidecarImage both ↔
      (c.get? "deployment" "queueSidecarImage").isSome = true ∨
        ∀ image image', earlier.get? "queue-proxy" = some image →
          later.get? "queue-proxy" = some image' → image = image' := by
  have union := overlay "queue-proxy"
  by_cases given : (c.get? "deployment" "queueSidecarImage").isSome = true
  · simp only [applySidecarImage_of_given given, given, true_or]
  have absent := Option.not_isSome_iff_eq_none.mp given
  cases first : earlier.get? "queue-proxy" with
  | none =>
    rw [first, Option.or_none] at union
    simp [applySidecarImage_of_no_image c first, applySidecarImage_congr c union]
  | some image =>
    rw [applySidecarImage_of_given (given_applySidecarImage first)]
    cases second : later.get? "queue-proxy" with
    | none =>
      rw [first, second, Option.none_or, ← first] at union
      simp [applySidecarImage_congr c union]
    | some image' =>
      rw [first, second, Option.some_or] at union
      have differ : c.applySidecarImage earlier = c.applySidecarImage both ↔ image = image' := by
        rw [applySidecarImage_cases, applySidecarImage_cases, absent, first, union]
        refine ⟨fun same => ?_, fun same => by rw [same]⟩
        have cell := congrArg (·.get? "deployment" "queueSidecarImage") same
        simpa [get?_set] using cell
      simp [differ, absent]

end ConfigSections

namespace ServingSpec

/-- What an installation looks like once the operator's images are applied: the image of each
    component, what is kept of the user's, and what becomes of a second application. -/
theorem applyImages_layered (spec : ServingSpec) (images : StringMap String) :
    let after := spec.applyImages images
    (∀ component, after.registry.image? component =
      match images.get? component, spec.registry.overrides.get? component with
      | some image, _ => some image
      | none, some image => some image
      | none, none =>
        let fallback := (images.get? "default").getD spec.registry.fallback
        if fallback = "" then none else some fallback) ∧
    (∀ component image, images.get? component = none →
      spec.registry.overrides.get? component = some image →
        after.registry.overrides.get? component = some image) ∧
    after.config =
      (match spec.config.get? "deployment" "queueSidecarImage", images.get? "queue-proxy" with
      | none, some image => spec.config.set "deployment" "queueSidecarImage" image
      | _, _ => spec.config) ∧
    (∀ name key, ¬(name = "deployment" ∧ key = "queueSidecarImage") →
      after.config.get? name key = spec.config.get? name key) ∧
    after.applyImages images = after ∧
    ∀ later both : StringMap String, both.IsOverlay images later →
      (after.applyImages later).registry = (spec.applyImages both).registry ∧
      (after.applyImages later = spec.applyImages both ↔
        (spec.config.get? "deployment" "queueSidecarImage").isSome = true ∨
          ∀ image image', images.get? "queue-proxy" = some image →
            later.get? "queue-proxy" = some image' → image = image') := by
  intro after
  refine ⟨spec.registry.image?_overrideWith images, ?_,
    spec.config.applySidecarImage_cases images, ?_, ?_, ?_⟩
  · intro component image unnamed given
    exact (StringMap.get?_insertAll _ _ component).trans (by rw [unnamed, given]; rfl)
  · intro name key elsewhere
    exact (spec.config.get?_applySidecarImage images name key).trans (if_neg elsewhere)
  · have registry := spec.registry.overrideWith_overrideWith images
    have config := spec.config.applySidecarImage_twice images
    simp only [after, applyImages, registry, config]
  · intro later both overlay
    have registry : (spec.registry.overrideWith images).overrideWith later =
        spec.registry.overrideWith both := by
      rw [Registry.overrideWith_insertAll, overlay.eq]
    have config := spec.config.applySidecarImage_overlay_iff overlay
    refine ⟨registry, ?_⟩
    rw [← config]
    simp only [after, applyImages, registry, ServingSpec.mk.injEq, true_and, and_true]

def ownImages : ServingSpec where
  registry := {
    fallback := "own/all"
    overrides := StringMap.ofList [("activator", "own/activator"), ("webhook", "own/webhook")] }

def operatorImages : StringMap String :=
  StringMap.ofList [("activator", ""), ("default", "all:1"), ("queue-proxy", "queue:1")]

def newerImages : StringMap String := StringMap.ofList [("queue-proxy", "queue:2")]

theorem applyImages_layered_twoMaps :
    let after := ownImages.applyImages operatorImages
    let both := operatorImages.insertAll newerImages
    after.registry.image? "activator" = some "" ∧
      after.registry.image? "autoscaler" = some "all:1" ∧
      after.registry.overrides.get? "webhook" = some "own/webhook" ∧
      both.IsOverlay operatorImages newerImages ∧
      (after.applyImages newerImages).registry = (ownImages.applyImages both).registry ∧
      after.applyImages newerImages ≠ ownImages.applyImages both := by
  intro after both
  obtain ⟨image, kept, -, -, -, twoMaps⟩ := applyImages_layered ownImages operatorImages
  have overlay : both.IsOverlay operatorImages newerImages :=
    StringMap.get?_insertAll operatorImages newerImages
  obtain ⟨registry, same⟩ := twoMaps newerImages both overlay
  refine ⟨image "activator", image "autoscaler", kept "webhook" _ (by decide) (by decide), overlay,
    registry, fun equal => ?_⟩
  rcases same.mp equal with given | agree
  · exact absurd given (by decide)
  · exact absurd (agree "queue:1" "queue:2" (by decide) (by decide)) (by decide)

end ServingSpec

end ServingOperator
