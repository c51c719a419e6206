import ServingOperator.Api.FactAnswers
import ServingOperator.Ingress.Routes
import ServingOperator.Metrics

namespace ServingOperator

/-- What a controller does about one object, as a tree of requests in which every answer leads on to
    a pass of its own. -/
inductive Pass (α : Type) where
  | done (a : α)
  | facts (next : FactAnswers → Pass α)
  | change (c : Change) (next : Except ApiFailure Unit → Pass α)
  | routesOf (owner : Route.Owner) (next : Except ApiFailure (List Route) → Pass α)

namespace Pass

def bind {α β : Type} : Pass α → (α → Pass β) → Pass β
  | done a, f => f a
  | facts next, f => facts fun answers => (next answers).bind f
  | change c next, f => change c fun answer => (next answer).bind f
  | routesOf owner next, f => routesOf owner fun answer => (next answer).bind f

instance : Monad Pass where
  pure := done
  bind := bind

theorem bind_done {α : Type} (p : Pass α) : p.bind done = p := by
  induction p with
  | done a => rfl
  | facts next ih => simp [bind, ih]
  | change c next ih => simp [bind, ih]
  | routesOf owner next ih => simp [bind, ih]

theorem bind_assoc {α β γ : Type} (p : Pass α) (f : α → Pass β) (g : β → Pass γ) :
    (p.bind f).bind g = p.bind fun a => (f a).bind g := by
  induction p with
  | done a => rfl
  | facts next ih => simp [bind, ih]
  | change c next ih => simp [bind, ih]
  | routesOf owner next ih => simp [bind, ih]

instance : LawfulMonad Pass :=
  LawfulMonad.mk' Pass bind_done (fun _ _ => rfl) bind_assoc

end Pass

/-- Answers requests, and is changed by them. A request that cannot be sent has an answer as well,
    that it is unaddressed. -/
structure ApiServer (σ : Type) where
  facts : σ → FactAnswers
  change : Change → σ → Except ApiFailure Unit × σ
  routesOf : Route.Owner → σ → Except ApiFailure (List Route) × σ

def Pass.run {σ α : Type} (server : ApiServer σ) : Pass α → σ → α × σ
  | done a, s => (a, s)
  | facts next, s => (next (server.facts s)).run server s
  | change c next, s =>
    let (answer, s) := server.change c s
    (next answer).run server s
  | routesOf owner next, s =>
    let (answer, s) := server.routesOf owner s
    (next answer).run server s

theorem Pass.run_bind {σ α β : Type} (server : ApiServer σ) (p : Pass α) (f : α → Pass β) (s : σ) :
    (p.bind f).run server s = (f (p.run server s).1).run server (p.run server s).2 := by
  induction p generalizing s with
  | done a => rfl
  | facts next ih => exact ih _ _
  | change c next ih => exact ih _ _
  | routesOf owner next ih => exact ih _ _

inductive PassError where
  | missingNamespace (kind : String)
  | facts (failure : ApiFailure)
  | request (failure : ApiFailure)
  | routes (error : RouteError)
deriving DecidableEq, Repr

def PassError.message : PassError → String
  | missingNamespace kind => kind ++ " missing namespace"
  | facts _ => "Failed to read cluster facts"
  | request _ => "Kubernetes API error"
  | routes e => "Failed to translate Ingress into Routes: " ++ e.message

inductive Action where
  | requeue (seconds : Nat)
  | awaitChange
deriving DecidableEq, Repr

structure Conclusion where
  action : Action
  events : List MetricEvent
deriving DecidableEq, Repr

abbrev Attempt := ExceptT PassError Pass

namespace Attempt

def facts : Attempt Facts :=
  ExceptT.mk <| .facts fun answers =>
    .done (answers.gather.mapError PassError.facts)

def tryChange (c : Change) : Attempt (Except ApiFailure Unit) :=
  ExceptT.mk <| .change c fun answer => .done (.ok answer)

def change (c : Change) : Attempt Unit := do
  match ← tryChange c with
  | .ok () => return
  | .error failure => throw (.request failure)

/-- Asks for a deletion; that there is nothing to delete is as good. -/
def delete (inNamespace name : String) : Attempt Unit := do
  match ← tryChange (.deleteRoute inNamespace name) with
  | .ok () => return
  | .error failure => if failure = .notFound then return else throw (.request failure)

def routesOf (owner : Route.Owner) : Attempt (List Route) :=
  ExceptT.mk <| .routesOf owner fun answer => .done (answer.mapError PassError.request)

/-- What an attempt comes to in the end: one that gave up is counted and soon made again. -/
def settle (controller : String) : Except PassError Conclusion → Conclusion
  | .ok conclusion => conclusion
  | .error _ => ⟨.requeue 10, [.failed controller]⟩

end Attempt

end ServingOperator
