import ServingOperator.Proofs.Serving.ConfigCells
import ServingOperator.Proofs.Serving.SpecResolution

namespace ServingOperator

structure Occasion where
  facts : Facts
  config : OperatorConfig
  now : Instant

namespace Occasion

def offered? (o : Occasion) (backend : Backend) (name key : String) : Option String :=
  o.facts.offered? o.config backend name key

def image? (o : Occasion) (component : String) : Option String := o.config.images.get? component

def writes (backend : Backend) (o : Occasion) : List CellWrite :=
  ConfigSections.routineWrites o.config.images o.facts.domain backend o.facts.loggingHost ++
    ConfigSections.monitoringWrites o.config.monitoring

def lastImage? (os : List Occasion) (component : String) : Option String :=
  os.reverse.findSome? (·.image? component)

theorem lastImage?_cons (o : Occasion) (os : List Occasion) (component : String) :
    lastImage? (o :: os) component = (lastImage? os component).or (o.image? component) := by
  rw [lastImage?, List.reverse_cons, List.findSome?_append, findSome?_cons_or, List.findSome?_nil,
    Option.or_none]
  rfl

end Occasion

namespace ConfigSections

theorem history_agrees (backend : Backend) (os : List Occasion) :
    ∀ w ∈ os.flatMap (·.writes backend), ∀ other ∈ os.flatMap (·.writes backend),
      other.Agrees w := by
  intro w member other otherMember
  obtain ⟨o, -, written⟩ := List.mem_flatMap.mp member
  obtain ⟨o', -, otherWritten⟩ := List.mem_flatMap.mp otherMember
  cases other with
  | fill _ _ _ => trivial
  | force name key value =>
    have forced := force_mem_backendWrites otherWritten
    refine writes_agree _ _ _ _ _ w written _ ?_
    simp only [routineWrites, List.mem_append]
    exact .inl (.inl (.inr forced))

theorem history_demands {backend : Backend} {name key : String}
    (free : backend.forced? name key = none) (os : List Occasion) :
    (os.flatMap (·.writes backend)).findSome? (CellWrite.demand? name key) = none := by
  induction os with
  | nil => rfl
  | cons o os ih =>
    rw [List.flatMap_cons, List.findSome?_append, ih, Option.or_none]
    exact (demands_eq _ _ _ _ _ name key).trans free

theorem history_offers {backend : Backend} {name key : String}
    (free : backend.forced? name key = none) (os : List Occasion) :
    (os.flatMap (·.writes backend)).findSome? (CellWrite.offer? name key) =
      os.findSome? (·.offered? backend name key) := by
  induction os with
  | nil => rfl
  | cons o os ih =>
    rw [List.flatMap_cons, List.findSome?_append, ih, findSome?_cons_or]
    exact congrArg (Option.or · _) (offers_eq o.facts o.config free)

theorem get?_history {backend : Backend} {name key : String}
    (free : backend.forced? name key = none) (c : ConfigSections) (os : List Occasion) :
    (c.write (os.flatMap (·.writes backend))).get? name key =
      (c.get? name key).or (os.findSome? (·.offered? backend name key)) := by
  rw [get?_write (history_agrees backend os), history_demands free, history_offers free,
    Option.none_or]

theorem get?_history_forced {backend : Backend} {name key value : String}
    (forced : backend.forced? name key = some value) (c : ConfigSections) (earlier : List Occasion)
    (o : Occasion) :
    (c.write ((earlier ++ [o]).flatMap (·.writes backend))).get? name key = some value := by
  have last : ([o].flatMap (·.writes backend)).findSome? (CellWrite.demand? name key) =
      some value := by
    rw [List.flatMap_singleton]
    exact (demands_eq _ _ _ _ _ name key).trans forced
  rw [List.flatMap_append, write_append, get?_write (history_agrees backend [o]), last]
  rfl

end ConfigSections

theorem Registry.overrideWith_eq_iff (a b : Registry) (images : StringMap String) :
    a.overrideWith images = b.overrideWith images ↔
      (∀ component, images.get? component = none →
        a.overrides.get? component = b.overrides.get? component) ∧
      (images.get? fallbackComponent = none → a.fallback = b.fallback) := by
  unfold overrideWith
  rw [Registry.mk.injEq, and_comm]
  refine and_congr ⟨?_, ?_⟩ ?_
  · intro same component absent
    have looked := congrArg (StringMap.get? · component) same
    simpa only [StringMap.get?_insertAll, absent, Option.none_or] using looked
  · intro kept
    apply StringMap.ext_get?
    intro component
    rw [StringMap.get?_insertAll, StringMap.get?_insertAll]
    cases own : images.get? component with
    | none => rw [Option.none_or, Option.none_or, kept component own]
    | some image => rfl
  · cases images.get? fallbackComponent <;> simp

namespace ServingSpec

structure SettlesAlike (a b : ServingSpec) : Prop where
  availability : HighAvailability.filled a.highAvailability =
    HighAvailability.filled b.highAvailability
  certs : a.customCerts.filled = b.customCerts.filled
  resources : ResourceOverride.normalize a.resources = ResourceOverride.normalize b.resources
  backend : Backend.selected a.ingress = Backend.selected b.ingress
  ingress : (a.ingress.getD {}).select (Backend.selected a.ingress) =
    (b.ingress.getD {}).select (Backend.selected b.ingress)

theorem SettlesAlike.trans {a b c : ServingSpec} (ab : a.SettlesAlike b) (bc : b.SettlesAlike c) :
    a.SettlesAlike c where
  availability := ab.availability.trans bc.availability
  certs := ab.certs.trans bc.certs
  resources := ab.resources.trans bc.resources
  backend := ab.backend.trans bc.backend
  ingress := ab.ingress.trans bc.ingress

theorem settlesAlike_resolve (spec : ServingSpec) (images : StringMap String)
    (domain host : Option String) (switch : Option Bool) :
    (spec.resolve images domain host switch).spec.SettlesAlike spec := by
  rw [resolve_eq]
  have selected := IngressBlock.selected_select (spec.ingress.getD {})
    (Backend.selected spec.ingress)
  refine ⟨HighAvailability.filled_filled _, CustomCerts.filled_filled _,
    ResourceOverride.normalize_normalize _, selected, ?_⟩
  rw [selected]
  exact IngressBlock.select_select _ _

theorem SettlesAlike.resolve_eq_iff {a b : ServingSpec} (alike : a.SettlesAlike b)
    (images : StringMap String) (domain host : Option String) (switch : Option Bool) :
    let ra := (a.resolve images domain host switch).spec
    let rb := (b.resolve images domain host switch).spec
    ra = rb ↔ ra.config = rb.config ∧ ra.registry = rb.registry := by
  intro ra rb
  obtain ⟨availability, certs, resources, -, ingress⟩ := alike
  constructor
  · intro same
    rw [same]
    exact ⟨rfl, rfl⟩
  · rintro ⟨config, registry⟩
    simp only [ra, rb, resolve_eq] at config registry ⊢
    rw [ServingSpec.mk.injEq]
    exact ⟨congrArg some availability, certs, registry, resources, config, congrArg some ingress⟩

end ServingSpec

namespace KnativeServing

def passOn (serving : KnativeServing) (o : Occasion) : KnativeServing :=
  serving.store (serving.resolve o.facts o.config o.now)

def passes (serving : KnativeServing) (os : List Occasion) : KnativeServing :=
  os.foldl passOn serving

theorem passes_concat (serving : KnativeServing) (os : List Occasion) (o : Occasion) :
    serving.passes (os ++ [o]) = (serving.passes os).passOn o := by
  rw [passes, List.foldl_append]
  rfl

theorem settlesAlike_passes (serving : KnativeServing) (os : List Occasion) :
    (serving.passes os).spec.SettlesAlike serving.spec := by
  induction os generalizing serving with
  | nil => exact ⟨rfl, rfl, rfl, rfl, rfl⟩
  | cons o os ih =>
    exact (ih (serving.passOn o)).trans (ServingSpec.settlesAlike_resolve _ _ _ _ _)

theorem config_passes (serving : KnativeServing) (os : List Occasion) :
    (serving.passes os).spec.config =
      serving.spec.config.write (os.flatMap (·.writes (Backend.selected serving.spec.ingress))) := by
  induction os generalizing serving with
  | nil => rfl
  | cons o os ih =>
    have backend := (ServingSpec.settlesAlike_resolve serving.spec o.config.images o.facts.domain
      o.facts.loggingHost o.config.monitoring).backend
    have first : (serving.passOn o).spec.config =
        serving.spec.config.write (o.writes (Backend.selected serving.spec.ingress)) :=
      ServingSpec.config_resolve _ _ _ _ _
    show ((serving.passOn o).passes os).spec.config = _
    rw [ih, List.flatMap_cons, ConfigSections.write_append, ← first]
    exact congrArg (fun b => (serving.passOn o).spec.config.write (os.flatMap (·.writes b))) backend

theorem registry_passOn (serving : KnativeServing) (o : Occasion) :
    (serving.passOn o).spec.registry = serving.spec.registry.overrideWith o.config.images := by
  show (serving.spec.resolve _ _ _ _).spec.registry = _
  rw [ServingSpec.resolve_eq]

theorem overrides_passes (serving : KnativeServing) (os : List Occasion) (component : String) :
    (serving.passes os).spec.registry.overrides.get? component =
      (Occasion.lastImage? os component).or (serving.spec.registry.overrides.get? component) := by
  induction os generalizing serving with
  | nil => rfl
  | cons o os ih =>
    have first : (serving.passOn o).spec.registry.overrides.get? component =
        (o.image? component).or (serving.spec.registry.overrides.get? component) := by
      rw [registry_passOn]
      exact StringMap.get?_insertAll _ _ component
    show ((serving.passOn o).passes os).spec.registry.overrides.get? component = _
    rw [ih, first, Occasion.lastImage?_cons, Option.or_assoc]

theorem fallback_passes (serving : KnativeServing) (os : List Occasion) :
    (serving.passes os).spec.registry.fallback =
      (Occasion.lastImage? os Registry.fallbackComponent).getD serving.spec.registry.fallback := by
  induction os generalizing serving with
  | nil => rfl
  | cons o os ih =>
    have first : (serving.passOn o).spec.registry.fallback =
        (o.image? Registry.fallbackComponent).getD serving.spec.registry.fallback := by
      rw [registry_passOn]
      rfl
    show ((serving.passOn o).passes os).spec.registry.fallback = _
    rw [ih, first, Occasion.lastImage?_cons]
    cases Occasion.lastImage? os Registry.fallbackComponent <;> rfl

/-- What earlier passes left in the spec is what the last one finds there or writes itself. -/
structure LeavesNoTrace (serving : KnativeServing) (earlier : List Occasion) (last : Occasion) :
    Prop where
  cells (name key : String) :
    (Backend.selected serving.spec.ingress).forced? name key = none →
    serving.spec.config.get? name key = none →
    ∀ value, earlier.findSome? (·.offered? (Backend.selected serving.spec.ingress) name key) =
        some value →
      last.offered? (Backend.selected serving.spec.ingress) name key = some value
  overrides (component : String) :
    last.image? component = none →
    ∀ image, Occasion.lastImage? earlier component = some image →
      serving.spec.registry.overrides.get? component = some image
  fallback :
    last.image? Registry.fallbackComponent = none →
    ∀ image, Occasion.lastImage? earlier Registry.fallbackComponent = some image →
      serving.spec.registry.fallback = image

theorem config_passes_eq_iff (serving : KnativeServing) (earlier : List Occasion)
    (last : Occasion) :
    (serving.passes (earlier ++ [last])).spec.config = (serving.passes [last]).spec.config ↔
      ∀ name key, (Backend.selected serving.spec.ingress).forced? name key = none →
        serving.spec.config.get? name key = none →
        ∀ value, earlier.findSome? (·.offered? (Backend.selected serving.spec.ingress) name key) =
            some value →
          last.offered? (Backend.selected serving.spec.ingress) name key = some value := by
  rw [config_passes, config_passes]
  constructor
  · intro same name key free empty value offered
    have cell := congrArg (ConfigSections.get? · name key) same
    simp only [ConfigSections.get?_history free, empty, List.findSome?_append, offered,
      Option.none_or, Option.some_or] at cell
    simpa using cell.symm
  · intro kept
    refine ConfigSections.write_ext _ fun name key => ?_
    cases forced : (Backend.selected serving.spec.ingress).forced? name key with
    | some value =>
      rw [ConfigSections.get?_history_forced forced]
      exact (ConfigSections.get?_history_forced forced _ [] last).symm
    | none =>
      rw [ConfigSections.get?_history forced, ConfigSections.get?_history forced]
      cases given : serving.spec.config.get? name key with
      | some value => rfl
      | none =>
        rw [List.findSome?_append]
        cases offered : earlier.findSome?
            (·.offered? (Backend.selected serving.spec.ingress) name key) with
        | none => rfl
        | some value =>
          simp [kept name key forced given value offered]

theorem registry_passes_eq_iff (serving : KnativeServing) (earlier : List Occasion)
    (last : Occasion) :
    ((serving.passes earlier).passOn last).spec.registry = (serving.passOn last).spec.registry ↔
      (∀ component, last.image? component = none →
        ∀ image, Occasion.lastImage? earlier component = some image →
          serving.spec.registry.overrides.get? component = some image) ∧
      (last.image? Registry.fallbackComponent = none →
        ∀ image, Occasion.lastImage? earlier Registry.fallbackComponent = some image →
          serving.spec.registry.fallback = image) := by
  rw [registry_passOn, registry_passOn, Registry.overrideWith_eq_iff, fallback_passes]
  simp only [overrides_passes]
  refine and_congr (forall_congr' fun component => imp_congr_right fun _ => ?_)
    (imp_congr_right fun _ => ?_)
  · cases Occasion.lastImage? earlier component with
    | none => simp
    | some image => simp [eq_comm]
  · cases Occasion.lastImage? earlier Registry.fallbackComponent with
    | none => simp
    | some image => simp [eq_comm]

/-- The last pass decides as if there had been no other exactly if the others left no trace. -/
theorem resolve_passes_eq_iff (serving : KnativeServing) (earlier : List Occasion)
    (last : Occasion) :
    ((serving.passes earlier).resolve last.facts last.config last.now).spec =
        (serving.resolve last.facts last.config last.now).spec ↔
      serving.LeavesNoTrace earlier last := by
  have config := config_passes_eq_iff serving earlier last
  rw [passes_concat] at config
  have registry := registry_passes_eq_iff serving earlier last
  refine ((settlesAlike_passes serving earlier).resolve_eq_iff _ _ _ _).trans ?_
  refine (and_congr config registry).trans ?_
  constructor
  · rintro ⟨cells, overrides, fallback⟩
    exact ⟨cells, overrides, fallback⟩
  · rintro ⟨cells, overrides, fallback⟩
    exact ⟨cells, overrides, fallback⟩

/-- The logs of the cluster move to another host, and the links go on pointing to the first. -/
theorem resolve_passes_movedLogs :
    let serving : KnativeServing := { metadata := {}, spec := {} }
    let first : Occasion :=
      ⟨{ version := "v1.24.0", loggingHost := some "one.example" }, {}, ⟨0, 0⟩⟩
    let second : Occasion :=
      ⟨{ version := "v1.24.0", loggingHost := some "two.example" }, {}, ⟨300, 0⟩⟩
    ((serving.passes [first]).resolve second.facts second.config second.now).spec ≠
      (serving.resolve second.facts second.config second.now).spec := by
  intro serving first second same
  have link := congrArg (fun spec : ServingSpec =>
    spec.config.get? ConfigKey.observability ConfigKey.revisionUrlTemplate) same
  revert link
  decide

end KnativeServing

end ServingOperator
