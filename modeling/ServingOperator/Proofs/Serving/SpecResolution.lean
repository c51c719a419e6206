import ServingOperator.Proofs.Serving.ConfigWrites
import ServingOperator.Proofs.Serving.Gates
import ServingOperator.Proofs.Serving.ResourceOverrides
import ServingOperator.Serving.Resolution

namespace ServingOperator

namespace ConfigSections

def sidecarWrites (images : StringMap String) : List CellWrite :=
  match images.get? "queue-proxy" with
  | some image => [.fill ConfigKey.deployment ConfigKey.queueSidecarImage image]
  | none => []

def networkWrites (domain : Option String) : List CellWrite :=
  [.fill ConfigKey.network ConfigKey.domainTemplate
      "\x7b\x7b.Name\x7d\x7d-\x7b\x7b.Namespace\x7d\x7d.\x7b\x7b.Domain\x7d\x7d",
    .fill ConfigKey.network ConfigKey.autocreateDomainClaims "true",
    .fill ConfigKey.network ConfigKey.defaultExternalScheme "https"] ++
  match domain with
  | some domain => if domain = "" then [] else [.fill ConfigKey.domain domain ""]
  | none => []

def backendWrites (backend : Backend) : List CellWrite :=
  if backend.isMesh then
    [.force ConfigKey.network ConfigKey.ingressClass backend.ingressClass,
      .force ConfigKey.observability ConfigKey.metricsBackend ConfigKey.noBackend]
  else [.fill ConfigKey.network ConfigKey.ingressClass backend.ingressClass]

def loggingWrites (host : Option String) : List CellWrite :=
  match host with
  | none => []
  | some host =>
    if host = "" then []
    else [.fill ConfigKey.observability ConfigKey.revisionUrlTemplate
      (Logging.revisionUrlTemplate host)]

def monitoringWrites (switch : Option Bool) : List CellWrite :=
  if switch = some false then
    [.fill ConfigKey.observability ConfigKey.metricsBackend ConfigKey.noBackend]
  else []

def routineWrites (images : StringMap String) (domain : Option String) (backend : Backend)
    (host : Option String) : List CellWrite :=
  sidecarWrites images ++ networkWrites domain ++ backendWrites backend ++ loggingWrites host

theorem applySidecarImage_eq (c : ConfigSections) (images : StringMap String) :
    c.applySidecarImage images = c.write (sidecarWrites images) := by
  unfold applySidecarImage sidecarWrites
  cases images.get? "queue-proxy" <;> rfl

theorem applyNetwork_eq (c : ConfigSections) (domain : Option String) :
    c.applyNetwork domain = c.write (networkWrites domain) := by
  unfold applyNetwork networkWrites
  cases domain with
  | none => rfl
  | some domain =>
    by_cases empty : domain = ""
    · simp only [empty, if_true]
      rfl
    · simp only [empty, if_false]
      rfl

theorem applyBackend_eq (c : ConfigSections) (backend : Backend) :
    c.applyBackend backend = c.write (backendWrites backend) := by
  unfold applyBackend backendWrites
  cases backend.isMesh <;> rfl

theorem applyLogging_eq (c : ConfigSections) (host : Option String) :
    (c.applyLogging host).2 = c.write (loggingWrites host) := by
  unfold applyLogging loggingWrites
  cases host with
  | none => rfl
  | some host =>
    dsimp only
    split <;> rfl

theorem applyMonitoring_eq (c : ConfigSections) (switch : Option Bool) :
    (c.applyMonitoring switch).2 = c.write (monitoringWrites switch) := by
  unfold applyMonitoring MonitoringDecision.of monitoringWrites
  cases named : c.get? ConfigKey.observability ConfigKey.metricsBackend with
  | some backend =>
    have present : c.contains ConfigKey.observability ConfigKey.metricsBackend = true := by
      rw [contains, named]
      rfl
    rcases switch with _ | _ | _ <;> simp [write, CellWrite.apply, fill_of_contains present]
  | none =>
    have absent : c.contains ConfigKey.observability ConfigKey.metricsBackend = false := by
      rw [contains, named]
      rfl
    rcases switch with _ | _ | _ <;> simp [write, CellWrite.apply, fill_of_absent absent]

theorem force_mem_backendWrites {name key value : String} {images : StringMap String}
    {domain : Option String} {backend : Backend} {host : Option String} {switch : Option Bool}
    (h : .force name key value ∈
      routineWrites images domain backend host ++ monitoringWrites switch) :
    .force name key value ∈ backendWrites backend := by
  simp only [routineWrites, List.mem_append, or_assoc] at h
  rcases h with h | h | h | h | h
  · unfold sidecarWrites at h
    split at h <;> simp at h
  · unfold networkWrites at h
    split at h
    · split at h <;> simp at h
    · simp at h
  · exact h
  · unfold loggingWrites at h
    split at h
    · simp at h
    · split at h <;> simp at h
  · unfold monitoringWrites at h
    split at h <;> simp at h

theorem writes_agree (images : StringMap String) (domain : Option String) (backend : Backend)
    (host : Option String) (switch : Option Bool) :
    ∀ w ∈ routineWrites images domain backend host ++ monitoringWrites switch,
      ∀ other ∈ routineWrites images domain backend host ++ monitoringWrites switch,
        other.Agrees w := by
  intro w member other otherMember
  cases other with
  | fill _ _ _ => trivial
  | force name key value =>
    cases w with
    | fill _ _ _ => trivial
    | force name' key' value' =>
      have left := force_mem_backendWrites otherMember
      have right := force_mem_backendWrites member
      rintro ⟨rfl, rfl⟩
      unfold backendWrites at left right
      cases mesh : backend.isMesh with
      | false => simp [mesh] at left
      | true =>
        simp only [mesh, if_true, List.mem_cons, CellWrite.force.injEq, List.not_mem_nil,
          or_false] at left right
        rcases left with ⟨rfl, rfl, rfl⟩ | ⟨rfl, rfl, rfl⟩
        · rcases right with ⟨-, -, rfl⟩ | ⟨h, -, -⟩
          · rfl
          · exact absurd h (by decide)
        · rcases right with ⟨h, -, -⟩ | ⟨-, -, rfl⟩
          · exact absurd h (by decide)
          · rfl

theorem write_resolved (c : ConfigSections) (images : StringMap String)
    (domain : Option String) (backend : Backend) (host : Option String) (switch : Option Bool) :
    let resolved := ((c.write (routineWrites images domain backend host)).applyMonitoring switch).2
    resolved.write (routineWrites images domain backend host) = resolved ∧
      (resolved.applyMonitoring switch).2 = resolved := by
  intro resolved
  have all : resolved =
      c.write (routineWrites images domain backend host ++ monitoringWrites switch) := by
    rw [write_append, ← applyMonitoring_eq]
  have met : ∀ w ∈ routineWrites images domain backend host ++ monitoringWrites switch,
      w.IsMet resolved := by
    intro w member
    rw [all]
    exact isMet_write (writes_agree images domain backend host switch) c member
  constructor
  · exact write_of_isMet fun w member => met w (List.mem_append_left _ member)
  · rw [applyMonitoring_eq]
    exact write_of_isMet fun w member => met w (List.mem_append_right _ member)

end ConfigSections

namespace MonitoringDecision

theorem of_named {c : ConfigSections} {backend : String}
    (named : c.get? ConfigKey.observability ConfigKey.metricsBackend = some backend)
    (switch : Option Bool) :
    MonitoringDecision.of c switch = ⟨backend ≠ ConfigKey.noBackend, false⟩ := by
  unfold MonitoringDecision.of
  rw [named]

theorem of_unnamed {c : ConfigSections}
    (unnamed : c.get? ConfigKey.observability ConfigKey.metricsBackend = none)
    (switch : Option Bool) :
    MonitoringDecision.of c switch = ⟨switch.getD true, !switch.getD true⟩ := by
  unfold MonitoringDecision.of
  rw [unnamed]
  rcases switch with _ | _ | _ <;> rfl

theorem enabled_of_applied (c : ConfigSections) (switch : Option Bool) :
    (MonitoringDecision.of (c.applyMonitoring switch).2 switch).enabled =
      (MonitoringDecision.of c switch).enabled := by
  unfold ConfigSections.applyMonitoring
  cases named : c.get? ConfigKey.observability ConfigKey.metricsBackend with
  | some backend => simp [of_named named]
  | none =>
    rw [of_unnamed named]
    cases on : switch.getD true with
    | true => simp [of_unnamed named, on]
    | false =>
      have written : (c.set ConfigKey.observability ConfigKey.metricsBackend
          ConfigKey.noBackend).get? ConfigKey.observability ConfigKey.metricsBackend =
            some ConfigKey.noBackend := by
        rw [ConfigSections.get?_set, if_pos ⟨rfl, rfl⟩]
      simp [of_named written]

end MonitoringDecision

namespace IngressBlock

theorem selected_select (block : IngressBlock) (backend : Backend) :
    Backend.selected (some (block.select backend)) = backend := by
  cases backend <;> rfl

theorem select_select (block : IngressBlock) (backend : Backend) :
    (block.select backend).select backend = block.select backend := by
  cases backend <;> rfl

end IngressBlock

theorem Registry.overrideWith_overrideWith (registry : Registry) (images : StringMap String) :
    (registry.overrideWith images).overrideWith images = registry.overrideWith images := by
  unfold Registry.overrideWith
  rw [StringMap.insertAll_insertAll]
  cases images.get? Registry.fallbackComponent <;> rfl

def HighAvailability.filled (block : Option HighAvailability) : HighAvailability :=
  let block := block.getD {}
  if block.replicas = 0 then { replicas := 2 } else block

theorem HighAvailability.filled_filled (block : Option HighAvailability) :
    filled (some (filled block)) = filled block := by
  unfold filled
  by_cases unset : (block.getD {}).replicas = 0 <;> simp [unset]

def CustomCerts.filled (certs : CustomCerts) : CustomCerts :=
  if certs.isEmpty then { type := "ConfigMap", name := "config-service-ca" } else certs

theorem CustomCerts.filled_filled (certs : CustomCerts) : certs.filled.filled = certs.filled := by
  unfold filled
  cases empty : certs.isEmpty with
  | true => rfl
  | false => simp [empty]

namespace ServingSpec

theorem defaultCustomCerts_eq (spec : ServingSpec) :
    spec.defaultCustomCerts = { spec with customCerts := spec.customCerts.filled } := by
  unfold defaultCustomCerts CustomCerts.filled
  split <;> rfl

theorem resolve_eq (spec : ServingSpec) (images : StringMap String)
    (domain host : Option String) (switch : Option Bool) :
    let backend := Backend.selected spec.ingress
    let routine := spec.config.write (ConfigSections.routineWrites images domain backend host)
    spec.resolve images domain host switch =
      { spec :=
          { highAvailability := some (HighAvailability.filled spec.highAvailability)
            customCerts := spec.customCerts.filled
            registry := spec.registry.overrideWith images
            resources := ResourceOverride.normalize spec.resources
            config := (routine.applyMonitoring switch).2
            ingress := some ((spec.ingress.getD {}).select backend) }
        backend
        monitoring := MonitoringDecision.of routine switch } := by
  intro backend routine
  have config : (((((spec.config.applySidecarImage images).applyNetwork domain).applyBackend
      backend).applyLogging host).2) = routine := by
    rw [ConfigSections.applyLogging_eq, ConfigSections.applyBackend_eq,
      ConfigSections.applyNetwork_eq, ConfigSections.applySidecarImage_eq]
    simp only [routine, ConfigSections.routineWrites, ConfigSections.write_append]
  simp only [resolve, applyDefaults, resolveIngress, writeBackend, defaultNetwork,
    normalizeResources, applyImages, defaultCustomCerts_eq, defaultHighAvailability]
  rw [← config]
  rfl

/-- Resolving what was resolved changes neither the spec nor what was decided. The decision on
    metrics need not be written a second time. -/
theorem resolve_resolve (spec : ServingSpec) (images : StringMap String)
    (domain host : Option String) (switch : Option Bool) :
    let first := spec.resolve images domain host switch
    let second := first.spec.resolve images domain host switch
    second.spec = first.spec ∧ second.backend = first.backend ∧
      second.monitoring.enabled = first.monitoring.enabled := by
  intro first second
  have byMember := resolve_eq spec images domain host switch
  dsimp only at byMember
  obtain ⟨routine, decided⟩ := ConfigSections.write_resolved spec.config images domain
    (Backend.selected spec.ingress) host switch
  simp only [second, first, byMember, resolve_eq, IngressBlock.selected_select,
    Option.getD_some, IngressBlock.select_select, HighAvailability.filled_filled,
    CustomCerts.filled_filled, Registry.overrideWith_overrideWith,
    ResourceOverride.normalize_normalize, routine, decided,
    MonitoringDecision.enabled_of_applied, and_self]

end ServingSpec

namespace KnativeServing

def store (serving : KnativeServing) (r : Resolution) : KnativeServing :=
  { serving with spec := r.spec, status := some r.status }

theorem status_resolve_store (serving : KnativeServing) (facts : Facts) (config : OperatorConfig)
    (now later : Instant) :
    ((store serving (resolve serving facts config now)).resolve facts config later).status =
      (resolve serving facts config now).status :=
  ServingStatus.resolve_resolve _ _ _ _ now later

theorem resolve_store (serving : KnativeServing) (facts : Facts) (config : OperatorConfig)
    (now later : Instant) :
    let first := resolve serving facts config now
    let second := resolve (store serving first) facts config later
    second.spec = first.spec ∧ second.status = first.status ∧ second.backend = first.backend ∧
      second.monitoring.enabled = first.monitoring.enabled ∧
      second.monitoring.label = first.monitoring.label ∧
      second.isBlocked = first.isBlocked := by
  intro first second
  have status : second.status = first.status :=
    status_resolve_store serving facts config now later
  obtain ⟨spec, backend, enabled⟩ := ServingSpec.resolve_resolve serving.spec config.images
    facts.domain facts.loggingHost config.monitoring
  have label : second.monitoring.label = first.monitoring.label := by
    unfold MonitoringDecision.label
    exact congrArg (fun on : Bool => if on then "true" else "false") enabled
  have blocked : second.isBlocked = first.isBlocked := by
    unfold Resolution.isBlocked
    rw [status]
  exact ⟨spec, status, backend, enabled, label, blocked⟩

end KnativeServing

end ServingOperator
