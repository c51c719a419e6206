import Mathlib.Data.List.Forall2
import ServingOperator.Proofs.Serving.PassHistory

namespace ServingOperator

structure Occasion.OffersAlike (o p : Occasion) : Prop where
  images : o.config.images = p.config.images
  domain : o.facts.domain = p.facts.domain
  loggingHost : o.facts.loggingHost = p.facts.loggingHost
  monitoring : o.config.monitoring = p.config.monitoring

structure Occasion.GatesAlike (o p : Occasion) : Prop where
  version : o.facts.version = p.facts.version
  minimum : o.config.minimumVersion = p.config.minimumVersion
  required : o.config.requiredNamespace = p.config.requiredNamespace
  now : o.now = p.now

namespace KnativeServing

structure GatedAlike (a b : KnativeServing) : Prop where
  inNamespace : a.metadata.inNamespace = b.metadata.inNamespace
  generation : a.metadata.generation = b.metadata.generation
  status : a.status = b.status

variable {a b : KnativeServing} {o p : Occasion}

theorem demands_resolve (spec : a.spec = b.spec) (offers : o.OffersAlike p) :
    let r := a.resolve o.facts o.config o.now
    let r' := b.resolve p.facts p.config p.now
    r.spec = r'.spec ∧ r.backend = r'.backend ∧ r.monitoring = r'.monitoring := by
  intro r r'
  have resolved : a.spec.resolve o.config.images o.facts.domain o.facts.loggingHost
      o.config.monitoring = b.spec.resolve p.config.images p.facts.domain p.facts.loggingHost
      p.config.monitoring := by
    rw [spec, offers.images, offers.domain, offers.loggingHost, offers.monitoring]
  exact ⟨congrArg ResolvedSpec.spec resolved, congrArg ResolvedSpec.backend resolved,
    congrArg ResolvedSpec.monitoring resolved⟩

theorem status_resolve (gated : a.GatedAlike b) (gates : o.GatesAlike p) :
    (a.resolve o.facts o.config o.now).status = (b.resolve p.facts p.config p.now).status := by
  simp only [resolve, gated.status, gated.inNamespace, gated.generation, gates.version,
    gates.minimum, gates.required, gates.now]

/-- Each half of a resolution is told by its own inputs alone. -/
theorem resolve_separates (a b : KnativeServing) (o p : Occasion) :
    let r := a.resolve o.facts o.config o.now
    let r' := b.resolve p.facts p.config p.now
    (a.spec = b.spec → o.OffersAlike p →
      r.spec = r'.spec ∧ r.backend = r'.backend ∧ r.monitoring = r'.monitoring) ∧
    (a.GatedAlike b → o.GatesAlike p → r.status = r'.status ∧ r.isBlocked = r'.isBlocked) := by
  intro r r'
  refine ⟨demands_resolve, fun gated gates => ?_⟩
  have status : r.status = r'.status := status_resolve gated gates
  have blocked : r.isBlocked = r'.isBlocked := by
    unfold Resolution.isBlocked
    rw [status]
  exact ⟨status, blocked⟩

/-- The first two of three passes fill the same spec, the one while both gates fail; the last two
    find the same failure, over different specs. -/
theorem resolve_separates_gates :
    let mesh : ServingSpec := { ingress := some { istio := { enabled := true } } }
    let misplaced : KnativeServing :=
      { metadata := { inNamespace := some "edge", generation := some 3 }, spec := mesh }
    let placed : KnativeServing :=
      { metadata := { inNamespace := some "serving" }, spec := mesh, status := some {} }
    let bare : KnativeServing := { placed with spec := {} }
    let early : Occasion :=
      ⟨{ version := "1.19.4" }, { requiredNamespace := some "serving" }, ⟨0, 0⟩⟩
    let late : Occasion := ⟨{ version := "soon" }, {}, ⟨60, 0⟩⟩
    let logged : Occasion :=
      ⟨{ version := "soon", loggingHost := some "logs" }, { monitoring := some true }, ⟨60, 0⟩⟩
    let r := misplaced.resolve early.facts early.config early.now
    let r' := placed.resolve late.facts late.config late.now
    let r'' := bare.resolve logged.facts logged.config logged.now
    (r.spec = r'.spec ∧ r.backend = r'.backend ∧ r.monitoring = r'.monitoring) ∧
      r.status ≠ r'.status ∧ (r'.status = r''.status ∧ r'.isBlocked = r''.isBlocked) ∧
      r'.backend ≠ r''.backend := by
  intro mesh misplaced placed bare early late logged r r' r''
  obtain ⟨sameDemands, -⟩ := resolve_separates misplaced placed early late
  obtain ⟨-, sameGates⟩ := resolve_separates placed bare late logged
  exact ⟨sameDemands rfl ⟨rfl, rfl, rfl, rfl⟩, by decide,
    sameGates ⟨rfl, rfl, rfl⟩ ⟨rfl, rfl, rfl, rfl⟩, by decide⟩

theorem spec_passes {a b : KnativeServing} {os ps : List Occasion} (spec : a.spec = b.spec)
    (offers : List.Forall₂ Occasion.OffersAlike os ps) :
    (a.passes os).spec = (b.passes ps).spec := by
  induction offers generalizing a b with
  | nil => exact spec
  | cons first _ ih => exact ih (demands_resolve spec first).1

theorem gatedAlike_passes {a b : KnativeServing} {os ps : List Occasion} (gated : a.GatedAlike b)
    (gates : List.Forall₂ Occasion.GatesAlike os ps) : (a.passes os).GatedAlike (b.passes ps) := by
  induction gates generalizing a b with
  | nil => exact gated
  | cons first _ ih =>
    exact ih ⟨gated.inNamespace, gated.generation, congrArg some (status_resolve gated first)⟩

end KnativeServing

end ServingOperator
