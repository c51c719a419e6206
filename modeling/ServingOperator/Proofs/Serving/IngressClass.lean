import ServingOperator.Proofs.Serving.PassHistory

namespace ServingOperator

inductive Turn where
  | pass (o : Occasion)
  | edit (block : Option IngressBlock)

def Backend.standing (earlier : List Backend) (backend : Backend) : Backend :=
  if .istio ∈ earlier ∨ backend = .istio then .istio else earlier.head?.getD backend

theorem Backend.standing_eq_iff (earlier : List Backend) (backend : Backend) :
    standing earlier backend = backend ↔
      backend = .istio ∨
        .istio ∉ earlier ∧ ∀ first, earlier.head? = some first → first = backend := by
  unfold standing
  by_cases mesh : backend = .istio
  · simp [mesh]
  by_cases before : .istio ∈ earlier
  · simp [before, mesh, eq_comm]
  · cases earlier with
    | nil => simp [mesh]
    | cons first rest => simp [before, mesh]

theorem Backend.ingressClass_standing (earlier : List Backend) (backend : Backend) :
    some (standing earlier backend).ingressClass =
      if backend = .istio then some Backend.istio.ingressClass
      else (if .istio ∈ earlier then some Backend.istio.ingressClass
        else earlier.head?.map ingressClass).or (some backend.ingressClass) := by
  unfold standing
  by_cases mesh : backend = .istio
  · simp [mesh]
  by_cases before : .istio ∈ earlier
  · simp [mesh, before]
  · cases earlier with
    | nil => simp [mesh]
    | cons first rest => simp [mesh, before]

theorem Backend.ingressClass_inj {a b : Backend} : a.ingressClass = b.ingressClass ↔ a = b := by
  cases a <;> cases b <;> decide

namespace KnativeServing

def withIngress (serving : KnativeServing) (block : Option IngressBlock) : KnativeServing :=
  { serving with spec := { serving.spec with ingress := block } }

def turn (serving : KnativeServing) : Turn → KnativeServing
  | .pass o => serving.passOn o
  | .edit block => serving.withIngress block

def turns (serving : KnativeServing) (ts : List Turn) : KnativeServing := ts.foldl turn serving

def backends (serving : KnativeServing) : List Turn → List Backend
  | [] => []
  | .pass o :: ts =>
    (serving.resolve o.facts o.config o.now).backend :: (serving.passOn o).backends ts
  | .edit block :: ts => (serving.withIngress block).backends ts

theorem backend_resolve (serving : KnativeServing) (o : Occasion) :
    (serving.resolve o.facts o.config o.now).backend = Backend.selected serving.spec.ingress := by
  show (serving.spec.resolve o.config.images o.facts.domain o.facts.loggingHost
    o.config.monitoring).backend = _
  rw [ServingSpec.resolve_eq]

def ingressClass? (serving : KnativeServing) : Option String :=
  serving.spec.config.get? ConfigKey.network ConfigKey.ingressClass

theorem ingressClass?_passOn (serving : KnativeServing) (o : Occasion) :
    let backend := (serving.resolve o.facts o.config o.now).backend
    (serving.passOn o).ingressClass? =
      if backend = .istio then some Backend.istio.ingressClass
      else serving.ingressClass?.or (some backend.ingressClass) := by
  intro backend
  have written := config_passes serving [o]
  rw [← backend_resolve serving o] at written
  change (serving.passOn o).spec.config = serving.spec.config.write ([o].flatMap (·.writes backend))
    at written
  rw [ingressClass?, written]
  by_cases mesh : backend = .istio
  · have forced : backend.forced? ConfigKey.network ConfigKey.ingressClass =
        some Backend.istio.ingressClass := by
      rw [mesh]
      decide
    rw [if_pos mesh]
    exact ConfigSections.get?_history_forced forced _ [] o
  · have free : backend.forced? ConfigKey.network ConfigKey.ingressClass = none := if_neg mesh
    have offered : o.offered? backend ConfigKey.network ConfigKey.ingressClass =
        some backend.ingressClass := rfl
    rw [if_neg mesh, ConfigSections.get?_history free, findSome?_cons_or, offered, Option.some_or]
    rfl

theorem ingressClass?_turns (serving : KnativeServing) (ts : List Turn) :
    (serving.turns ts).ingressClass? =
      if .istio ∈ serving.backends ts then some Backend.istio.ingressClass
      else serving.ingressClass?.or ((serving.backends ts).head?.map Backend.ingressClass) := by
  induction ts generalizing serving with
  | nil => simp [turns, backends]
  | cons t ts ih =>
    cases t with
    | edit block => exact ih (serving.withIngress block)
    | pass o =>
      have first := ingressClass?_passOn serving o
      show ((serving.passOn o).turns ts).ingressClass? = _
      rw [ih, first, backends]
      by_cases later : .istio ∈ (serving.passOn o).backends ts
      · simp [later]
      · by_cases mesh : (serving.resolve o.facts o.config o.now).backend = .istio
        · simp [later, mesh]
        · simp [later, mesh, Ne.symm mesh]

/-- The class follows the backend if that is a mesh, or if there was no mesh before and the first
    backend was the same, and only then. -/
theorem ingressClass_follows_iff {serving : KnativeServing}
    (unset : serving.spec.config.get? ConfigKey.network ConfigKey.ingressClass = none)
    (ts : List Turn) (o : Occasion) :
    let earlier := serving.backends ts
    let r := (serving.turns ts).resolve o.facts o.config o.now
    let class? := r.spec.config.get? ConfigKey.network ConfigKey.ingressClass
    class? = some (Backend.standing earlier r.backend).ingressClass ∧
      (class? = some r.backend.ingressClass ↔
        r.backend = .istio ∨
          .istio ∉ earlier ∧ ∀ first, earlier.head? = some first → first = r.backend) := by
  intro earlier r class?
  have standing : class? = some (Backend.standing earlier r.backend).ingressClass := by
    have before := ingressClass?_turns serving ts
    have unset : serving.ingressClass? = none := unset
    have pass : class? = if r.backend = .istio then some Backend.istio.ingressClass
        else (serving.turns ts).ingressClass?.or (some r.backend.ingressClass) :=
      ingressClass?_passOn (serving.turns ts) o
    rw [pass, before, unset, Option.none_or, Backend.ingressClass_standing]
  refine ⟨standing, ?_⟩
  rw [standing, Option.some.injEq, Backend.ingressClass_inj, Backend.standing_eq_iff]

theorem ingressClass_follows_chosen :
    let serving : KnativeServing := { metadata := {}, spec := {} }
    let o : Occasion := ⟨{ version := "v1.24.0" }, {}, ⟨0, 0⟩⟩
    let chosen : IngressBlock := { contour := { enabled := true } }
    let r := (serving.turns [.edit (some chosen), .pass o]).resolve o.facts o.config o.now
    serving.spec.config.get? ConfigKey.network ConfigKey.ingressClass = none ∧
      r.spec.config.get? ConfigKey.network ConfigKey.ingressClass =
        some "contour.ingress.networking.knative.dev" := by
  intro serving o chosen r
  have unset : serving.spec.config.get? ConfigKey.network ConfigKey.ingressClass = none := rfl
  refine ⟨unset, ?_⟩
  exact (ingressClass_follows_iff unset [.edit (some chosen), .pass o] o).2.mpr
    (.inr ⟨by decide, by decide⟩)

/-- A user changes from the reference backend to another, and the class stays. -/
theorem ingressClass_left_behind :
    let serving : KnativeServing := { metadata := {}, spec := {} }
    let o : Occasion := ⟨{ version := "v1.24.0" }, {}, ⟨0, 0⟩⟩
    let chosen : IngressBlock := { contour := { enabled := true } }
    let r := (serving.turns [.pass o, .edit (some chosen)]).resolve o.facts o.config o.now
    serving.spec.config.get? ConfigKey.network ConfigKey.ingressClass = none ∧
      r.backend = .contour ∧
      r.spec.config.get? ConfigKey.network ConfigKey.ingressClass ≠
        some r.backend.ingressClass := by
  decide

end KnativeServing

end ServingOperator
