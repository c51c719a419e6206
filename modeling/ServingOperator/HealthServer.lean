import ServingOperator.Metrics.Exposition

namespace ServingOperator

structure Lifecycle where
  ready : Bool := false
  stopping : Bool := false
deriving DecidableEq, Repr

inductive LifecycleEvent where
  | becameReady
  | becameUnready
  | stopRequested
deriving DecidableEq, Repr

namespace Lifecycle

def step (l : Lifecycle) : LifecycleEvent → Lifecycle
  | .becameReady => { l with ready := true }
  | .becameUnready => { l with ready := false }
  | .stopRequested => { l with stopping := true }

def releasesWaiters (l : Lifecycle) : Bool := l.stopping

end Lifecycle

inductive ListenError where
  | noPort
  | portInUse
deriving DecidableEq, Repr

structure HttpResponse where
  status : Nat
  contentType : Option String := none
  allow : Option String := none
  body : String := ""
deriving DecidableEq, Repr

structure HealthServer where
  listensOn : UInt16
  lifecycle : Lifecycle := {}
  metrics : Metrics := {}
deriving DecidableEq

namespace HealthServer

def listen : List UInt16 → Except ListenError HealthServer
  | [] => .error .noPort
  | n :: _ => .ok { listensOn := n }

def listenBeside (s : HealthServer) (n : UInt16) : Except ListenError HealthServer :=
  if n = s.listensOn then .error .portInUse else .ok { listensOn := n }

def page? (s : HealthServer) (path : String) : Option HttpResponse :=
  if path = "/healthz" then some { status := 200 }
  else if path = "/readyz" then some { status := if s.lifecycle.ready then 200 else 503 }
  else if path = "/metrics" then
    some
      { status := 200
        contentType := some "text/plain; version=0.0.4; charset=utf-8"
        body := s.metrics.exposition }
  else none

def pathOf (address : String) : String := String.ofList (address.toList.takeWhile (· ≠ '?'))

def respond (s : HealthServer) (method address : String) : HttpResponse :=
  match s.page? (pathOf address) with
  | none => { status := 404 }
  | some page =>
    if method = "GET" then page
    else if method = "HEAD" then { page with body := "" }
    else { status := 405, allow := some "GET,HEAD" }

end HealthServer

end ServingOperator
