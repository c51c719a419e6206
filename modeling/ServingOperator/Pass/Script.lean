import ServingOperator.Api.Http
import ServingOperator.Pass

namespace ServingOperator

structure Script where
  facts : FactAnswers
  failures : List (Nat × Nat) := []
  existing : List Route := []

structure Played where
  result : Except PassError Conclusion
  requests : List HttpRequest

namespace Script

def failure? (script : Script) (log : List HttpRequest) : Option ApiFailure :=
  (script.failures.find? (·.1 = log.length)).map (.status ·.2)

def answer {α : Type} (script : Script) (request : Option HttpRequest)
    (reply : Address → Except ApiFailure α) (log : List HttpRequest) :
    Except ApiFailure α × List HttpRequest :=
  match request with
  | none => (.error .unaddressed, log)
  | some request =>
    (match script.failure? log with
      | some failure => .error failure
      | none => reply request.address, log ++ [request])

def leadsTo (path plural : String) : Bool :=
  (Text.splitAt '/' path.toList).dropLast.contains plural.toList

/-- The reply to a change that is not refused: the object that the path leads to. Only a route has
    members that it cannot do without, so that what is found elsewhere cannot be read as one. -/
def reply (c : Change) (address : Address) : Except ApiFailure Unit :=
  match c with
  | .applyRoute _ _ _ =>
    if leadsTo address.path Route.kind.plural then .ok () else .error .unreadable
  | .merge _ _ => .ok ()
  | .deleteRoute _ _ => .ok ()

def server (script : Script) : ApiServer (List HttpRequest) where
  facts _ := script.facts
  change c log := script.answer c.request? (reply c) log
  routesOf owner log := script.answer owner.listRequest? (fun _ => .ok script.existing) log

def play (script : Script) (attempt : Attempt Conclusion) : Played :=
  let (result, requests) := attempt.run.run script.server []
  { result, requests }

end Script

end ServingOperator
