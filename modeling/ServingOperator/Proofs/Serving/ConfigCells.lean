import ServingOperator.Proofs.Serving.SpecResolution

namespace ServingOperator

/-- The value that a backend puts in a cell whatever the user wrote there. -/
def Backend.forced? (backend : Backend) (name key : String) : Option String :=
  if backend = .istio then
    if name = "network" ∧ key = "ingress.class" then some "istio.ingress.networking.knative.dev"
    else if name = "observability" ∧ key = "metrics.backend-destination" then some "none"
    else none
  else none

/-- The value that the operator has for a cell that the user left empty. -/
def Facts.offered? (facts : Facts) (config : OperatorConfig) (backend : Backend)
    (name key : String) : Option String :=
  if name = "network" then
    if key = "domainTemplate" then
      some "\x7b\x7b.Name\x7d\x7d-\x7b\x7b.Namespace\x7d\x7d.\x7b\x7b.Domain\x7d\x7d"
    else if key = "autocreateClusterDomainClaims" then some "true"
    else if key = "defaultExternalScheme" then some "https"
    else if key = "ingress.class" then some backend.ingressClass
    else none
  else if name = "deployment" then
    if key = "queueSidecarImage" then config.images.get? "queue-proxy" else none
  else if name = "domain" then
    if key ≠ "" ∧ facts.domain = some key then some "" else none
  else if name = "observability" then
    if key = "logging.revision-url-template" then
      (facts.loggingHost.filter (· ≠ "")).map Logging.revisionUrlTemplate
    else if key = "metrics.backend-destination" ∧ config.monitoring = some false then some "none"
    else none
  else none

theorem findSome?_cons_or {α β : Type} (f : α → Option β) (x : α) (xs : List α) :
    (x :: xs).findSome? f = (f x).or (xs.findSome? f) := by
  rw [List.findSome?_cons]
  cases f x <;> rfl

namespace CellWrite

def offer? (name key : String) : CellWrite → Option String
  | fill name' key' value => if name = name' ∧ key = key' then some value else none
  | force _ _ _ => none

def demand? (name key : String) : CellWrite → Option String
  | fill _ _ _ => none
  | force name' key' value => if name = name' ∧ key = key' then some value else none

theorem get?_apply (c : ConfigSections) (w : CellWrite) (name key : String) :
    (w.apply c).get? name key =
      (w.demand? name key).or ((c.get? name key).or (w.offer? name key)) := by
  cases w with
  | fill name' key' value =>
    rw [apply, demand?, offer?, ConfigSections.get?_fill, Option.none_or]
    by_cases same : name = name' ∧ key = key'
    · obtain ⟨rfl, rfl⟩ := same
      cases c.get? name key <;> simp
    · have differ : ¬(name' = name ∧ key' = key) := fun h => same ⟨h.1.symm, h.2.symm⟩
      rw [if_neg same, if_neg differ, Option.or_none]
  | force name' key' value =>
    rw [apply, demand?, offer?, ConfigSections.get?_set, Option.or_none]
    by_cases same : name = name' ∧ key = key'
    · obtain ⟨rfl, rfl⟩ := same
      simp
    · have differ : ¬(name' = name ∧ key' = key) := fun h => same ⟨h.1.symm, h.2.symm⟩
      rw [if_neg same, if_neg differ, Option.none_or]

def cell : CellWrite → String × String
  | fill name key _ => (name, key)
  | force name key _ => (name, key)

theorem get?_apply_of_ne {w : CellWrite} {name key : String} (h : w.cell ≠ (name, key))
    (c : ConfigSections) : (w.apply c).get? name key = c.get? name key := by
  have other : ¬(name = w.cell.1 ∧ key = w.cell.2) := by
    rintro ⟨rfl, rfl⟩
    exact h rfl
  cases w <;> simp only [cell] at other <;> simp [get?_apply, demand?, offer?, other]

theorem demand?_comm {w : CellWrite} {ws : List CellWrite} (agree : ∀ other ∈ ws, other.Agrees w)
    (name key : String) :
    (ws.findSome? (demand? name key)).or (w.demand? name key) =
      (w.demand? name key).or (ws.findSome? (demand? name key)) := by
  cases own : w.demand? name key with
  | none => rw [Option.or_none, Option.none_or]
  | some value =>
    cases others : ws.findSome? (demand? name key) with
    | none => rfl
    | some value' =>
      obtain ⟨other, member, demanded⟩ := List.exists_of_findSome?_eq_some others
      have same : value' = value := by
        cases w with
        | fill _ _ _ => cases own
        | force name₁ key₁ value₁ =>
        cases other with
        | fill _ _ _ => cases demanded
        | force name₂ key₂ value₂ =>
        simp only [demand?, Option.ite_none_right_eq_some, Option.some.injEq] at own demanded
        obtain ⟨⟨rfl, rfl⟩, rfl⟩ := own
        obtain ⟨⟨rfl, rfl⟩, rfl⟩ := demanded
        exact agree _ member ⟨rfl, rfl⟩
      rw [same]

end CellWrite

namespace ConfigSections

/-- A cell after writes that agree: what is forced on it, or else what it held, or else what is
    offered first. -/
theorem get?_write {ws : List CellWrite} (agree : ∀ w ∈ ws, ∀ other ∈ ws, other.Agrees w)
    (c : ConfigSections) (name key : String) :
    (c.write ws).get? name key =
      (ws.findSome? (CellWrite.demand? name key)).or
        ((c.get? name key).or (ws.findSome? (CellWrite.offer? name key))) := by
  induction ws generalizing c with
  | nil => simp [write]
  | cons w ws ih =>
    have later : ∀ w ∈ ws, ∀ other ∈ ws, other.Agrees w := fun w hw other ho =>
      agree w (List.mem_cons_of_mem _ hw) other (List.mem_cons_of_mem _ ho)
    have first : ∀ other ∈ ws, other.Agrees w := fun other ho =>
      agree w List.mem_cons_self other (List.mem_cons_of_mem _ ho)
    -- What the first write forces may be forced again later on, but only to the same value.
    have rest := ih later (w.apply c)
    rw [CellWrite.get?_apply] at rest
    rw [findSome?_cons_or, findSome?_cons_or, ← CellWrite.demand?_comm first]
    simp only [Option.or_assoc] at rest ⊢
    exact rest

theorem offers_sidecar (images : StringMap String) (name key : String) :
    (sidecarWrites images).findSome? (CellWrite.offer? name key) =
      if name = "deployment" ∧ key = "queueSidecarImage" then images.get? "queue-proxy"
      else none := by
  unfold sidecarWrites
  cases images.get? "queue-proxy" with
  | none => simp
  | some image => simp [CellWrite.offer?, ConfigKey.deployment, ConfigKey.queueSidecarImage]

def domainWrites (domain : Option String) : List CellWrite :=
  match domain with
  | some domain => if domain = "" then [] else [.fill ConfigKey.domain domain ""]
  | none => []

theorem networkWrites_eq (domain : Option String) :
    networkWrites domain = networkWrites none ++ domainWrites domain := by
  cases domain <;> rfl

theorem offers_network (name key : String) :
    (networkWrites none).findSome? (CellWrite.offer? name key) =
      if name = "network" then
        if key = "domainTemplate" then
          some "\x7b\x7b.Name\x7d\x7d-\x7b\x7b.Namespace\x7d\x7d.\x7b\x7b.Domain\x7d\x7d"
        else if key = "autocreateClusterDomainClaims" then some "true"
        else if key = "defaultExternalScheme" then some "https"
        else none
      else none := by
  simp only [networkWrites, List.append_nil, findSome?_cons_or, List.findSome?_nil,
    CellWrite.offer?, ConfigKey.network, ConfigKey.domainTemplate,
    ConfigKey.autocreateDomainClaims, ConfigKey.defaultExternalScheme, Option.or_none]
  by_cases network : name = "network"
  · simp only [network, true_and, if_true]
    split
    · rfl
    · rw [Option.none_or]
      split <;> rfl
  · simp [network]

theorem offers_domain (domain : Option String) (name key : String) :
    (domainWrites domain).findSome? (CellWrite.offer? name key) =
      if name = "domain" ∧ key ≠ "" ∧ domain = some key then some "" else none := by
  unfold domainWrites
  cases domain with
  | none => simp
  | some domain =>
    by_cases empty : domain = ""
    · subst empty
      have never : ¬(name = "domain" ∧ key ≠ "" ∧ some "" = some key) :=
        fun h => h.2.1 (Option.some.inj h.2.2).symm
      rw [if_neg never]
      rfl
    · have own : (name = "domain" ∧ key = domain) ↔
          (name = "domain" ∧ key ≠ "" ∧ some domain = some key) := by
        constructor
        · rintro ⟨rfl, rfl⟩
          exact ⟨rfl, empty, rfl⟩
        · rintro ⟨rfl, -, same⟩
          exact ⟨rfl, (Option.some.inj same).symm⟩
      simp only [empty, if_false, findSome?_cons_or, List.findSome?_nil, Option.or_none,
        CellWrite.offer?, ConfigKey.domain, own]

theorem offers_backend (backend : Backend) (name key : String) :
    (backendWrites backend).findSome? (CellWrite.offer? name key) =
      if name = "network" ∧ key = "ingress.class" ∧ backend ≠ .istio then some backend.ingressClass
      else none := by
  cases backend <;>
    simp [backendWrites, Backend.isMesh, CellWrite.offer?, ConfigKey.network,
      ConfigKey.ingressClass]

theorem offers_logging (host : Option String) (name key : String) :
    (loggingWrites host).findSome? (CellWrite.offer? name key) =
      if name = "observability" ∧ key = "logging.revision-url-template" then
        (host.filter (· ≠ "")).map Logging.revisionUrlTemplate
      else none := by
  unfold loggingWrites
  cases host with
  | none => simp
  | some host =>
    by_cases empty : host = "" <;>
      simp [empty, CellWrite.offer?, ConfigKey.observability, ConfigKey.revisionUrlTemplate,
        Option.filter_some]

theorem offers_monitoring (switch : Option Bool) (name key : String) :
    (monitoringWrites switch).findSome? (CellWrite.offer? name key) =
      if name = "observability" ∧ key = "metrics.backend-destination" ∧ switch = some false then
        some "none"
      else none := by
  unfold monitoringWrites
  by_cases off : switch = some false <;>
    simp [off, CellWrite.offer?, ConfigKey.observability, ConfigKey.metricsBackend,
      ConfigKey.noBackend]

theorem demands_backend (backend : Backend) (name key : String) :
    (backendWrites backend).findSome? (CellWrite.demand? name key) = backend.forced? name key := by
  cases backend with
  | kourier => rfl
  | contour => rfl
  | istio =>
    show List.findSome? (CellWrite.demand? name key)
      [.force ConfigKey.network ConfigKey.ingressClass Backend.istio.ingressClass,
        .force ConfigKey.observability ConfigKey.metricsBackend ConfigKey.noBackend] = _
    rw [findSome?_cons_or, findSome?_cons_or, List.findSome?_nil, Option.or_none,
      CellWrite.demand?, CellWrite.demand?, Backend.forced?, if_pos rfl]
    by_cases network : name = ConfigKey.network ∧ key = ConfigKey.ingressClass
    · obtain ⟨rfl, rfl⟩ := network
      rfl
    · rw [if_neg network, Option.none_or]
      exact (if_neg network).symm

theorem demands_eq (images : StringMap String) (domain? : Option String) (backend : Backend)
    (host : Option String) (switch : Option Bool) (name key : String) :
    (routineWrites images domain? backend host ++ monitoringWrites switch).findSome?
      (CellWrite.demand? name key) = backend.forced? name key := by
  have sidecar : (sidecarWrites images).findSome? (CellWrite.demand? name key) = none := by
    unfold sidecarWrites
    cases images.get? "queue-proxy" <;> rfl
  have network : (networkWrites none).findSome? (CellWrite.demand? name key) = none := rfl
  have domain : (domainWrites domain?).findSome? (CellWrite.demand? name key) = none := by
    unfold domainWrites
    cases domain? with
    | none => rfl
    | some domain =>
      dsimp only
      split <;> rfl
  have logging : (loggingWrites host).findSome? (CellWrite.demand? name key) = none := by
    unfold loggingWrites
    cases host with
    | none => rfl
    | some host =>
      dsimp only
      split <;> rfl
  have monitoring : (monitoringWrites switch).findSome? (CellWrite.demand? name key) = none := by
    unfold monitoringWrites
    split <;> rfl
  simp only [routineWrites, networkWrites_eq domain?, List.findSome?_append, sidecar, network,
    domain, demands_backend, logging, monitoring, Option.none_or, Option.or_none]

theorem offers_eq (facts : Facts) (config : OperatorConfig) {backend : Backend} {name key : String}
    (free : backend.forced? name key = none) :
    (routineWrites config.images facts.domain backend facts.loggingHost ++
        monitoringWrites config.monitoring).findSome? (CellWrite.offer? name key) =
      facts.offered? config backend name key := by
  simp only [routineWrites, networkWrites_eq facts.domain, List.findSome?_append, offers_sidecar,
    offers_network, offers_domain, offers_backend, offers_logging, offers_monitoring]
  unfold Facts.offered?
  by_cases network : name = "network"
  · subst network
    by_cases class_ : key = "ingress.class"
    · subst class_
      have notMesh : backend ≠ .istio := by
        rintro rfl
        cases free
      simp [notMesh]
    · simp [class_]
  by_cases deployment : name = "deployment"
  · subst deployment
    simp
  by_cases domain : name = "domain"
  · subst domain
    simp
  by_cases observability : name = "observability"
  · subst observability
    by_cases template : key = "logging.revision-url-template"
    · subst template
      simp
    · simp [template]
  · simp [network, deployment, domain, observability]

theorem isSome_section?_of_contains {c : ConfigSections} {name key : String}
    (h : c.contains name key = true) : (c.section? name).isSome = true := by
  obtain ⟨value, found⟩ := Option.isSome_iff_exists.mp h
  obtain ⟨entries, present, -⟩ := Option.bind_eq_some_iff.mp found
  rw [present]
  rfl

theorem isSome_section?_set (c : ConfigSections) (name key value name' : String) :
    ((c.set name key value).section? name').isSome = true ↔
      (c.section? name').isSome = true ∨ name = name' := by
  rw [section?, set, StringMap.get?_insert]
  by_cases same : name = name' <;> simp [same, section?]

theorem isSome_section?_apply (c : ConfigSections) (w : CellWrite) (name : String) :
    ((w.apply c).section? name).isSome = true ↔
      (c.section? name).isSome = true ∨ ∃ key, (w.apply c).contains name key = true := by
  constructor
  · intro present
    cases w with
    | fill name' key value =>
      rw [CellWrite.apply] at present ⊢
      cases filled : c.contains name' key with
      | true =>
        rw [fill_of_contains filled] at present
        exact .inl present
      | false =>
        rw [fill_of_absent filled, isSome_section?_set] at present
        refine present.imp_right ?_
        rintro rfl
        exact ⟨key, by simp [contains_fill]⟩
    | force name' key value =>
      rw [CellWrite.apply, isSome_section?_set] at present
      refine present.imp_right ?_
      rintro rfl
      exact ⟨key, by simp [CellWrite.apply, contains_set]⟩
  · rintro (kept | ⟨key, value⟩)
    · cases w with
      | fill name' key value =>
        rw [CellWrite.apply]
        cases filled : c.contains name' key with
        | true => rwa [fill_of_contains filled]
        | false =>
          rw [fill_of_absent filled, isSome_section?_set]
          exact .inl kept
      | force name' key value =>
        rw [CellWrite.apply, isSome_section?_set]
        exact .inl kept
    · exact isSome_section?_of_contains value

theorem contains_write {c : ConfigSections} {name key : String} (ws : List CellWrite)
    (value : c.contains name key = true) : (c.write ws).contains name key = true := by
  have met : (CellWrite.fill name key "").IsMet c := value
  exact isMet_write_of_isMet met fun other _ => by cases other <;> trivial

theorem isSome_section?_write (c : ConfigSections) (ws : List CellWrite) (name : String) :
    ((c.write ws).section? name).isSome = true ↔
      (c.section? name).isSome = true ∨ ∃ key, (c.write ws).contains name key = true := by
  induction ws generalizing c with
  | nil =>
    refine ⟨.inl, ?_⟩
    rintro (kept | ⟨key, value⟩)
    · exact kept
    · exact isSome_section?_of_contains value
  | cons w ws ih =>
    have rest := ih (w.apply c)
    have step := isSome_section?_apply c w name
    rw [write, List.foldl_cons]
    change (((w.apply c).write ws).section? name).isSome = true ↔
      _ ∨ ∃ key, ((w.apply c).write ws).contains name key = true
    rw [rest, step, or_assoc]
    refine or_congr_right ⟨?_, .inr⟩
    rintro (⟨key, value⟩ | later)
    · exact ⟨key, contains_write ws value⟩
    · exact later

theorem ext_get? {a b : ConfigSections} (cells : ∀ name key, a.get? name key = b.get? name key)
    (sections : ∀ name, (a.section? name).isSome = (b.section? name).isSome) : a = b := by
  refine congrArg ConfigSections.mk (StringMap.ext_get? fun name => ?_)
  have present := sections name
  have entries (key : String) : (a.section? name).bind (·.get? key) =
      (b.section? name).bind (·.get? key) := cells name key
  show a.section? name = b.section? name
  cases left : a.section? name with
  | none =>
    rw [left] at present
    exact (Option.isNone_iff_eq_none.mp (by simpa using present.symm)).symm
  | some x =>
    rw [left] at present
    obtain ⟨y, right⟩ := Option.isSome_iff_exists.mp present.symm
    simp only [left, right, Option.bind_some] at entries
    rw [right, StringMap.ext_get? entries]

theorem write_ext (c : ConfigSections) {ws ws' : List CellWrite}
    (cells : ∀ name key, (c.write ws).get? name key = (c.write ws').get? name key) :
    c.write ws = c.write ws' := by
  refine ext_get? cells fun name => ?_
  rw [Bool.eq_iff_iff, isSome_section?_write, isSome_section?_write]
  simp only [contains, cells]

theorem get?_write_congr {c c' : ConfigSections} {name key : String}
    (h : c.get? name key = c'.get? name key) (ws : List CellWrite) :
    (c.write ws).get? name key = (c'.write ws).get? name key := by
  induction ws generalizing c c' with
  | nil => exact h
  | cons w ws ih =>
    refine ih ?_
    rw [CellWrite.get?_apply, CellWrite.get?_apply, h]

theorem get?_write_of_untouched {ws : List CellWrite} {name key : String}
    (untouched : ∀ w ∈ ws, w.cell ≠ (name, key)) (c : ConfigSections) :
    (c.write ws).get? name key = c.get? name key := by
  induction ws generalizing c with
  | nil => rfl
  | cons w ws ih =>
    have rest := ih (fun w' member => untouched w' (List.mem_cons_of_mem _ member)) (w.apply c)
    exact rest.trans (CellWrite.get?_apply_of_ne (untouched w List.mem_cons_self) c)

theorem write_comm {ws ws' : List CellWrite}
    (apart : ∀ w ∈ ws, ∀ w' ∈ ws', w.cell ≠ w'.cell) (c : ConfigSections) :
    (c.write ws).write ws' = (c.write ws').write ws := by
  rw [← write_append, ← write_append]
  refine write_ext c fun name key => ?_
  rw [write_append, write_append]
  by_cases touched : ∃ w ∈ ws, w.cell = (name, key)
  · obtain ⟨w, member, own⟩ := touched
    have untouched : ∀ w' ∈ ws', w'.cell ≠ (name, key) := fun w' member' same =>
      apart w member w' member' (own.trans same.symm)
    rw [get?_write_of_untouched untouched]
    exact get?_write_congr (get?_write_of_untouched untouched c).symm ws
  · have untouched : ∀ w ∈ ws, w.cell ≠ (name, key) := fun w member same =>
      touched ⟨w, member, same⟩
    rw [get?_write_of_untouched untouched (c.write ws')]
    exact get?_write_congr (get?_write_of_untouched untouched c) ws'

end ConfigSections

theorem ServingSpec.config_resolve (spec : ServingSpec) (images : StringMap String)
    (domain host : Option String) (switch : Option Bool) :
    (spec.resolve images domain host switch).spec.config =
      spec.config.write
        (ConfigSections.routineWrites images domain (Backend.selected spec.ingress) host ++
          ConfigSections.monitoringWrites switch) := by
  rw [resolve_eq, ConfigSections.write_append, ← ConfigSections.applyMonitoring_eq]

/-- Every cell holds what the backend forces on it, or else what the user wrote, or else what the
    operator offers; and no section is lost or comes up empty. -/
theorem KnativeServing.resolved_cells (serving : KnativeServing) (facts : Facts)
    (config : OperatorConfig) (now : Instant) :
    let resolution := serving.resolve facts config now
    let given := serving.spec.config
    let resolved := resolution.spec.config
    (∀ name key, resolved.get? name key =
      (resolution.backend.forced? name key).or
        ((given.get? name key).or (facts.offered? config resolution.backend name key))) ∧
    ∀ name, (resolved.section? name).isSome = true ↔
      (given.section? name).isSome = true ∨ ∃ key, (resolved.get? name key).isSome = true := by
  intro resolution given resolved
  have backend : resolution.backend = Backend.selected serving.spec.ingress := by
    show (serving.spec.resolve config.images facts.domain facts.loggingHost
      config.monitoring).backend = _
    rw [ServingSpec.resolve_eq]
  have written : resolved = given.write (ConfigSections.routineWrites config.images facts.domain
      resolution.backend facts.loggingHost ++
        ConfigSections.monitoringWrites config.monitoring) := by
    rw [backend]
    exact ServingSpec.config_resolve serving.spec config.images facts.domain facts.loggingHost
      config.monitoring
  constructor
  · intro name key
    rw [written, ConfigSections.get?_write (ConfigSections.writes_agree _ _ _ _ _),
      ConfigSections.demands_eq]
    cases forced : resolution.backend.forced? name key with
    | some value => rfl
    | none => rw [ConfigSections.offers_eq facts config forced]
  · intro name
    rw [written]
    exact ConfigSections.isSome_section?_write given _ name

end ServingOperator
