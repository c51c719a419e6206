import ServingOperator.Double
import ServingOperator.Route

namespace ServingOperator

namespace Fnv

def absorb (state : UInt64) (byte : UInt8) : UInt64 := (state ^^^ byte.toUInt64) * 0x100000001b3

def hash (message : List UInt8) : UInt64 := message.foldl absorb 0xcbf29ce484222325

end Fnv

/-- What tells series apart: the hash of their label values, run together. -/
def seriesId (values : List String) : UInt64 := Fnv.hash (values.flatMap (·.toUTF8.toList))

structure Series (κ α : Type) where
  id : UInt64
  labels : κ
  value : α
deriving DecidableEq, Repr

namespace Series

variable {κ α : Type}

/-- Changes the value of a series. One that is not there yet starts from `start`, under the labels
    given; one that is there keeps its own. -/
def update (id : UInt64) (labels : κ) (start : α) (change : α → α) :
    List (Series κ α) → List (Series κ α)
  | [] => [⟨id, labels, change start⟩]
  | s :: rest =>
    if s.id = id then { s with value := change s.value } :: rest
    else s :: update id labels start change rest

def remove (id : UInt64) (all : List (Series κ α)) : List (Series κ α) := all.filter (·.id ≠ id)

end Series

inductive MetricEvent where
  | succeeded (controller : String)
  | failed (controller : String)
  | routesCounted (owner : Route.Owner) (count : Nat)
  | routesForgotten (owner : Route.Owner)
deriving DecidableEq, Repr

structure Histogram where
  within : List Nat
  sum : Double
  count : Nat
deriving DecidableEq, Repr

namespace Histogram

def bounds : List Double :=
  [5, 10, 50, 100, 250, 500, 1000, 2500, 5000].map fun ms => Double.ofRatio ms 1000

def empty : Histogram := ⟨bounds.map fun _ => 0, .zero, 0⟩

def observe (h : Histogram) (seconds : Double) : Histogram where
  within := List.zipWith (fun bound n => if seconds.le bound then n + 1 else n) bounds h.within
  sum := h.sum + seconds
  count := h.count + 1

end Histogram

structure PassLabels where
  controller : String
  result : String
deriving DecidableEq, Repr

structure Metrics where
  passes : List (Series PassLabels Nat) := []
  durations : List (Series String Histogram) := []
  routes : List (Series Route.Owner Nat) := []
deriving DecidableEq

namespace Metrics

def servingController : String := "knativeserving"
def ingressController : String := "ingress"

def success : String := "success"
def failure : String := "error"

def greatestCount : Nat := Int64.maxValue.toInt.toNat

def passId (labels : PassLabels) : UInt64 := seriesId [labels.controller, labels.result]
def durationId (controller : String) : UInt64 := seriesId [controller]
def routesId (owner : Route.Owner) : UInt64 := seriesId [owner.inNamespace, owner.name]

def countPass (m : Metrics) (labels : PassLabels) : Metrics :=
  { m with passes := Series.update (passId labels) labels 0 (· + 1) m.passes }

def observe (m : Metrics) (controller : String) (seconds : Double) : Metrics :=
  let add (h : Histogram) : Histogram := h.observe seconds
  { m with durations := Series.update (durationId controller) controller .empty add m.durations }

def setRoutes (m : Metrics) (owner : Route.Owner) (count : Nat) : Metrics :=
  let shown := min count greatestCount
  { m with routes := Series.update (routesId owner) owner 0 (fun _ => shown) m.routes }

def forgetRoutes (m : Metrics) (owner : Route.Owner) : Metrics :=
  { m with routes := Series.remove (routesId owner) m.routes }

def record (m : Metrics) (seconds : Double) : MetricEvent → Metrics
  | .succeeded controller => (m.countPass ⟨controller, success⟩).observe controller seconds
  | .failed controller => m.countPass ⟨controller, failure⟩
  | .routesCounted owner count => m.setRoutes owner count
  | .routesForgotten owner => m.forgetRoutes owner

def routeCount? (m : Metrics) (owner : Route.Owner) : Option Nat :=
  (m.routes.find? (·.labels = owner)).map (·.value)

end Metrics

end ServingOperator
