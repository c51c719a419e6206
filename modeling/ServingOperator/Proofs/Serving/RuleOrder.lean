import ServingOperator.Proofs.Serving.ConfigCells

namespace ServingOperator.ServingSpec

structure Draft where
  spec : ServingSpec
  backend : Option Backend := none
  monitoring : Option MonitoringDecision := none

inductive Rule where
  | highAvailability
  | customCerts
  | images
  | resources
  | network
  | backend
  | logging
  | monitoring
deriving DecidableEq, Repr

namespace Rule

def inOrder : List Rule :=
  [highAvailability, customCerts, images, resources, network, backend, logging, monitoring]

def apply (facts : Facts) (config : OperatorConfig) (d : Draft) : Rule → Draft
  | highAvailability => { d with spec := d.spec.defaultHighAvailability }
  | customCerts => { d with spec := d.spec.defaultCustomCerts }
  | images => { d with spec := d.spec.applyImages config.images }
  | resources => { d with spec := d.spec.normalizeResources }
  | network => { d with spec := d.spec.defaultNetwork facts.domain }
  | backend =>
    let resolved := d.spec.resolveIngress
    { d with spec := resolved.2, backend := resolved.1 }
  | logging =>
    let written := d.spec.config.applyLogging facts.loggingHost
    { d with spec := { d.spec with config := written.2 } }
  | monitoring =>
    let decided := d.spec.config.applyMonitoring config.monitoring
    { d with spec := { d.spec with config := decided.2 }, monitoring := decided.1 }

def applyAll (facts : Facts) (config : OperatorConfig) (rules : List Rule) (d : Draft) : Draft :=
  rules.foldl (apply facts config) d

def writes (facts : Facts) (config : OperatorConfig) (selected : Backend) : Rule → List CellWrite
  | images => ConfigSections.sidecarWrites config.images
  | network => ConfigSections.networkWrites facts.domain
  | backend => ConfigSections.backendWrites selected
  | logging => ConfigSections.loggingWrites facts.loggingHost
  | monitoring => ConfigSections.monitoringWrites config.monitoring
  | _ => []

def onlyBy {α : Type} (owner : Rule) (change : α → α) (r : Rule) (x : α) : α :=
  if r = owner then change x else x

theorem onlyBy_comm {α : Type} (owner : Rule) (change : α → α) (a b : Rule) (x : α) :
    onlyBy owner change b (onlyBy owner change a x) =
      onlyBy owner change a (onlyBy owner change b x) := by
  unfold onlyBy
  by_cases left : a = owner <;> by_cases right : b = owner <;> simp [left, right]

variable (facts : Facts) (config : OperatorConfig)

theorem apply_eq (d : Draft) (r : Rule) :
    let selected := Backend.selected d.spec.ingress
    apply facts config d r =
      { spec :=
          { highAvailability := onlyBy highAvailability
              (fun block => some (HighAvailability.filled block)) r d.spec.highAvailability
            customCerts := onlyBy customCerts CustomCerts.filled r d.spec.customCerts
            registry := onlyBy images (·.overrideWith config.images) r d.spec.registry
            resources := onlyBy resources ResourceOverride.normalize r d.spec.resources
            config := d.spec.config.write (writes facts config selected r)
            ingress := onlyBy backend (fun block => some ((block.getD {}).select
              (Backend.selected block))) r d.spec.ingress }
        backend := onlyBy backend (fun _ => some selected) r d.backend
        monitoring := onlyBy monitoring (fun _ => some (MonitoringDecision.of d.spec.config
          config.monitoring)) r d.monitoring } := by
  intro selected
  cases r with
  | highAvailability => rfl
  | customCerts =>
    rw [apply, defaultCustomCerts_eq]
    rfl
  | images =>
    rw [apply, applyImages, ConfigSections.applySidecarImage_eq]
    rfl
  | resources => rfl
  | network =>
    rw [apply, defaultNetwork, ConfigSections.applyNetwork_eq]
    rfl
  | backend =>
    simp only [apply, resolveIngress, writeBackend, ConfigSections.applyBackend_eq]
    rfl
  | logging =>
    simp only [apply, ConfigSections.applyLogging_eq]
    rfl
  | monitoring =>
    simp only [apply, ConfigSections.applyMonitoring_eq]
    rfl

theorem selected_onlyBy (r : Rule) (block : Option IngressBlock) :
    Backend.selected (onlyBy backend (fun block => some ((block.getD {}).select
      (Backend.selected block))) r block) = Backend.selected block := by
  unfold onlyBy
  split
  · exact IngressBlock.selected_select _ _
  · rfl

/-- Rules of different lanes have nothing to do with each other. -/
def lane : Rule → Rule
  | monitoring => backend
  | r => r

def laneOf (cell : String × String) : Rule :=
  if cell.1 = ConfigKey.deployment then images
  else if cell.1 = ConfigKey.observability then
    if cell.2 = ConfigKey.revisionUrlTemplate then logging else backend
  else if cell.1 = ConfigKey.network ∧ cell.2 = ConfigKey.ingressClass then backend
  else network

theorem laneOf_cell (selected : Backend) {r : Rule} {w : CellWrite}
    (member : w ∈ writes facts config selected r) : laneOf w.cell = r.lane := by
  cases r with
  | highAvailability | customCerts | resources => cases member
  | images =>
    simp only [writes, ConfigSections.sidecarWrites] at member
    split at member
    · rw [List.mem_singleton.mp member]
      rfl
    · cases member
  | network =>
    rw [writes, ConfigSections.networkWrites_eq, List.mem_append] at member
    rcases member with member | member
    · simp only [ConfigSections.networkWrites, List.append_nil, List.mem_cons, List.not_mem_nil,
        or_false] at member
      rcases member with rfl | rfl | rfl <;> rfl
    · unfold ConfigSections.domainWrites at member
      split at member
      · split at member
        · cases member
        · rw [List.mem_singleton.mp member]
          rfl
      · cases member
  | backend =>
    simp only [writes, ConfigSections.backendWrites] at member
    split at member
    · rcases List.mem_pair.mp member with rfl | rfl <;> rfl
    · rw [List.mem_singleton.mp member]
      rfl
  | logging =>
    simp only [writes, ConfigSections.loggingWrites] at member
    split at member
    · cases member
    · split at member
      · cases member
      · rw [List.mem_singleton.mp member]
        rfl
  | monitoring =>
    simp only [writes, ConfigSections.monitoringWrites] at member
    split at member
    · rw [List.mem_singleton.mp member]
      rfl
    · cases member

theorem of_write_of_lane {a : Rule} (apart : a.lane ≠ monitoring.lane) (selected : Backend)
    (c : ConfigSections) (switch : Option Bool) :
    MonitoringDecision.of (c.write (writes facts config selected a)) switch =
      MonitoringDecision.of c switch := by
  unfold MonitoringDecision.of
  rw [ConfigSections.get?_write_of_untouched]
  intro w member same
  have own := laneOf_cell facts config selected member
  rw [same] at own
  exact apart own.symm

theorem decision_comm {a b : Rule} (apart : a.lane ≠ b.lane) (selected : Backend)
    (c : ConfigSections) (m : Option MonitoringDecision) :
    let verdict := fun c (_ : Option MonitoringDecision) =>
      some (MonitoringDecision.of c config.monitoring)
    onlyBy monitoring (verdict (c.write (writes facts config selected a))) b
        (onlyBy monitoring (verdict c) a m) =
      onlyBy monitoring (verdict (c.write (writes facts config selected b))) a
        (onlyBy monitoring (verdict c) b m) := by
  intro verdict
  by_cases left : a = monitoring
  · have other : b ≠ monitoring := by
      rintro rfl
      exact apart (by rw [left])
    have kept := of_write_of_lane facts config (left ▸ Ne.symm apart) selected c config.monitoring
    simp [onlyBy, verdict, left, other, kept]
  · by_cases right : b = monitoring
    · have kept := of_write_of_lane facts config (right ▸ apart) selected c config.monitoring
      simp [onlyBy, verdict, left, right, kept]
    · simp [onlyBy, left, right]

theorem apply_comm {a b : Rule} (apart : a.lane ≠ b.lane) (d : Draft) :
    apply facts config (apply facts config d a) b =
      apply facts config (apply facts config d b) a := by
  have sections (selected : Backend) (c : ConfigSections) :
      (c.write (writes facts config selected a)).write (writes facts config selected b) =
        (c.write (writes facts config selected b)).write (writes facts config selected a) := by
    refine ConfigSections.write_comm (fun w member w' member' same => apart ?_) c
    rw [← laneOf_cell facts config selected member, same, laneOf_cell facts config selected member']
  have decision := decision_comm facts config apart (Backend.selected d.spec.ingress) d.spec.config
    d.monitoring
  simp only [apply_eq, selected_onlyBy, Draft.mk.injEq, ServingSpec.mk.injEq]
  exact ⟨⟨onlyBy_comm _ _ _ _ _, onlyBy_comm _ _ _ _ _, onlyBy_comm _ _ _ _ _,
    onlyBy_comm _ _ _ _ _, sections _ _, onlyBy_comm _ _ _ _ _⟩, onlyBy_comm _ _ _ _ _, decision⟩

theorem applyAll_advance {r : Rule} {front : List Rule} (apart : ∀ a ∈ front, a.lane ≠ r.lane)
    (back : List Rule) (d : Draft) :
    applyAll facts config (front ++ r :: back) d =
      applyAll facts config (front ++ back) (apply facts config d r) := by
  induction front generalizing d with
  | nil => rfl
  | cons a front ih =>
    have rest := ih (fun b member => apart b (List.mem_cons_of_mem _ member))
      (apply facts config d a)
    rw [apply_comm facts config (apart a List.mem_cons_self)] at rest
    exact rest

theorem applyAll_eq_of_lanes {order rules : List Rule}
    (same : ∀ l, order.filter (·.lane = l) = rules.filter (·.lane = l)) (d : Draft) :
    applyAll facts config order d = applyAll facts config rules d := by
  induction rules generalizing order d with
  | nil =>
    have empty : order = [] := by
      refine List.eq_nil_iff_forall_not_mem.mpr fun r member => ?_
      have inLane : r ∈ order.filter (·.lane = r.lane) := List.mem_filter.mpr ⟨member, by simp⟩
      rw [same] at inLane
      cases inLane
    rw [empty]
  | cons r rules ih =>
    -- The rule that comes first is also the first of its lane in the other order, where it moves
    -- ahead of the rules of other lanes.
    have own : order.filter (·.lane = r.lane) = r :: rules.filter (·.lane = r.lane) := by
      rw [same, List.filter_cons_of_pos (by simp)]
    obtain ⟨front, back, rfl, none, -, behind⟩ := List.filter_eq_cons_iff.mp own
    have apart : ∀ a ∈ front, a.lane ≠ r.lane := fun a member => by simpa using none a member
    rw [applyAll_advance facts config apart]
    refine ih (fun l => ?_) (apply facts config d r)
    have lane := same l
    rw [List.filter_append] at lane ⊢
    by_cases here : r.lane = l
    · subst here
      rw [behind, List.filter_eq_nil_iff.mpr none, List.nil_append]
    · rw [List.filter_cons_of_neg (by simpa using here),
        List.filter_cons_of_neg (by simpa using here)] at lane
      exact lane

theorem filter_lane_of_perm {order : List Rule} (perm : order.Perm inOrder)
    (before : [backend, monitoring].Sublist order) (l : Rule) :
    order.filter (·.lane = l) = inOrder.filter (·.lane = l) := by
  -- A lane of one rule has no order, and the lane of two keeps theirs by assumption.
  have kept : (inOrder.filter (·.lane = l)).Sublist (order.filter (·.lane = l)) := by
    cases l with
    | backend => exact before.filter (·.lane = backend)
    | monitoring => exact List.nil_sublist _
    | highAvailability | customCerts | images | resources | network | logging =>
      exact List.singleton_sublist.mpr
        (List.mem_filter.mpr ⟨perm.mem_iff.mpr (by decide), rfl⟩)
  exact (kept.eq_of_length (perm.filter _).length_eq.symm).symm

end Rule

/-- In whatever order the rules are applied, the spec and the decisions are those of a pass, if only
    the backend is selected before monitoring is decided on. -/
theorem resolve_any_order (serving : KnativeServing) (facts : Facts) (config : OperatorConfig)
    (now : Instant) (order : List Rule) (perm : order.Perm Rule.inOrder)
    (before : [Rule.backend, Rule.monitoring].Sublist order) :
    let r := serving.resolve facts config now
    Rule.applyAll facts config order { spec := serving.spec } =
      { spec := r.spec, backend := r.backend, monitoring := r.monitoring } := by
  intro r
  exact Rule.applyAll_eq_of_lanes facts config (Rule.filter_lane_of_perm perm before) _

theorem resolve_any_order_reversed :
    let spec : ServingSpec := { ingress := some { istio := { enabled := true } } }
    let serving : KnativeServing := { metadata := {}, spec }
    let facts : Facts := { domain := some "apps.example.com", loggingHost := some "logs.example.com" }
    let config : OperatorConfig := { monitoring := some false }
    let order : List Rule := [.logging, .backend, .monitoring, .network, .resources, .images,
      .customCerts, .highAvailability]
    let r := serving.resolve facts config ⟨0, 0⟩
    order.Perm Rule.inOrder ∧ [Rule.backend, Rule.monitoring].Sublist order ∧
      Rule.applyAll facts config order { spec := serving.spec } =
        { spec := r.spec, backend := r.backend, monitoring := r.monitoring } := by
  intro spec serving facts config order r
  have perm : order.Perm Rule.inOrder := by decide
  have before : [Rule.backend, Rule.monitoring].Sublist order := by decide
  exact ⟨perm, before, resolve_any_order serving facts config ⟨0, 0⟩ order perm before⟩

end ServingOperator.ServingSpec
