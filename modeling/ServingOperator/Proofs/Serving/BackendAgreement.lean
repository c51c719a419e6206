import ServingOperator.Proofs.Serving.ConfigCells

namespace ServingOperator

/-- The backend that an ingress block stands for. -/
inductive Backend.ChosenBy (block : Option IngressBlock) : Backend → Prop where
  | lastEnabled {given : IngressBlock} {before after : List Backend} {b : Backend}
      (present : block = some given) (order : [istio, kourier, contour] = before ++ b :: after)
      (enabled : (given.settings b).enabled = true)
      (later : ∀ other ∈ after, (given.settings other).enabled = false) : ChosenBy block b
  | reference
      (disabled : ∀ given, block = some given → ∀ b, (given.settings b).enabled = false) :
      ChosenBy block kourier

theorem Backend.mem_all (b : Backend) : b ∈ all := by
  cases b <;> decide

theorem Backend.chosenBy_selected (block : Option IngressBlock) :
    (selected block).ChosenBy block := by
  cases block with
  | none => exact .reference nofun
  | some given =>
    unfold selected
    rw [Option.bind_some]
    cases found : all.reverse.find? fun b => (given.settings b).enabled with
    | none =>
      refine .reference fun given' same b => ?_
      cases same
      have none_enabled := List.find?_eq_none.mp found b (List.mem_reverse.mpr b.mem_all)
      simpa using none_enabled
    | some b =>
      obtain ⟨enabled, after, before, reversed, later⟩ := List.find?_eq_some_iff_append.mp found
      have order : all = before.reverse ++ b :: after.reverse := by
        rw [← List.reverse_reverse all, reversed]
        simp
      refine .lastEnabled rfl order enabled fun other member => ?_
      simpa using later other (List.mem_reverse.mp member)

theorem IngressBlock.settings_select (block : IngressBlock) (backend b : Backend) :
    (block.select backend).settings b =
      if b = backend then ⟨true, some ((block.settings b).serviceType.getD .clusterIP)⟩
      else { block.settings b with enabled := false } :=
  settings_map _ block b

theorem MonitoringDecision.label_eq_false_iff (c : ConfigSections) (switch : Option Bool) :
    (of c switch).label = "false" ↔
      (c.applyMonitoring switch).2.get? ConfigKey.observability ConfigKey.metricsBackend =
        some ConfigKey.noBackend := by
  unfold ConfigSections.applyMonitoring label
  cases named : c.get? ConfigKey.observability ConfigKey.metricsBackend with
  | some backend =>
    rw [of_named named]
    by_cases off : backend = ConfigKey.noBackend <;> simp [named, off]
  | none =>
    rw [of_unnamed named]
    cases on : switch.getD true with
    | true => simp [named]
    | false => simp [ConfigSections.get?_set]

namespace ServingSpec

theorem forced_resolve (spec : ServingSpec) (images : StringMap String)
    (domain host : Option String) (switch : Option Bool) {name key value : String}
    (forced : .force name key value ∈
      ConfigSections.backendWrites (Backend.selected spec.ingress)) :
    (spec.resolve images domain host switch).spec.config.get? name key = some value := by
  have member : .force name key value ∈ ConfigSections.routineWrites images domain
      (Backend.selected spec.ingress) host ++ ConfigSections.monitoringWrites switch := by
    simp only [ConfigSections.routineWrites, List.mem_append]
    exact .inl (.inl (.inr forced))
  rw [config_resolve]
  exact ConfigSections.isMet_write (ConfigSections.writes_agree _ _ _ _ _) spec.config member

end ServingSpec

namespace KnativeServing

/-- In every resolution the block enables the one backend that is decided on, the label is false
    where no metrics backend is configured for good, and a mesh has its class and no metrics. -/
theorem resolve_agrees (serving : KnativeServing) (facts : Facts) (config : OperatorConfig)
    (now : Instant) :
    let r := serving.resolve facts config now
    let given := serving.spec.ingress.getD {}
    let cell := r.spec.config.get?
    (∃ block, r.spec.ingress = some block ∧ ∀ b,
      ((block.settings b).enabled = true ↔ b = r.backend) ∧
      (block.settings b).serviceType =
        if b = r.backend then some ((given.settings b).serviceType.getD .clusterIP)
        else (given.settings b).serviceType) ∧
    r.backend.ChosenBy serving.spec.ingress ∧
    (r.monitoring.label = "false" ↔
      cell "observability" "metrics.backend-destination" = some "none") ∧
    (r.backend = .istio → r.monitoring.label = "false" ∧
      cell "network" "ingress.class" = some "istio.ingress.networking.knative.dev") := by
  intro r given cell
  have byMember := serving.spec.resolve_eq config.images facts.domain facts.loggingHost
    config.monitoring
  have backend : r.backend = Backend.selected serving.spec.ingress :=
    congrArg ResolvedSpec.backend byMember
  have block : r.spec.ingress = some (given.select (Backend.selected serving.spec.ingress)) :=
    congrArg (·.spec.ingress) byMember
  have label : r.monitoring.label = "false" ↔
      cell "observability" "metrics.backend-destination" = some "none" := by
    have decided := MonitoringDecision.label_eq_false_iff
      (serving.spec.config.write (ConfigSections.routineWrites config.images facts.domain
        (Backend.selected serving.spec.ingress) facts.loggingHost)) config.monitoring
    have monitoring : r.monitoring = MonitoringDecision.of _ config.monitoring :=
      congrArg ResolvedSpec.monitoring byMember
    have written : r.spec.config = (ConfigSections.applyMonitoring _ config.monitoring).2 :=
      congrArg (·.spec.config) byMember
    rw [← monitoring, ← written] at decided
    exact decided
  rw [backend]
  refine ⟨⟨_, block, fun b => ?_⟩, Backend.chosenBy_selected _, label, fun mesh => ?_⟩
  · rw [IngressBlock.settings_select]
    by_cases same : b = Backend.selected serving.spec.ingress <;> simp [same]
  · have forced := @ServingSpec.forced_resolve serving.spec config.images facts.domain
      facts.loggingHost config.monitoring
    rw [mesh] at forced
    exact ⟨label.mpr (forced (by decide)), forced (by decide)⟩

theorem resolve_agrees_mesh :
    let block : IngressBlock :=
      { istio := { enabled := true }, kourier := { serviceType := some .loadBalancer } }
    let wished := ConfigSections.set {} "observability" "metrics.backend-destination" "prometheus"
    let serving : KnativeServing :=
      { metadata := {}, spec := { config := wished, ingress := block } }
    let r := serving.resolve {} { monitoring := some true } ⟨0, 0⟩
    r.backend = .istio ∧ r.monitoring.label = "false" ∧
      r.spec.config.get? "network" "ingress.class" =
        some "istio.ingress.networking.knative.dev" := by
  intro block wished serving r
  have mesh : r.backend = .istio := by decide
  obtain ⟨-, -, -, ofMesh⟩ := resolve_agrees serving {} { monitoring := some true } ⟨0, 0⟩
  exact ⟨mesh, ofMesh mesh⟩

end KnativeServing

end ServingOperator
