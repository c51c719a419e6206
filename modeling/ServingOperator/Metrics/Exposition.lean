import ServingOperator.Double
import ServingOperator.Metrics

namespace ServingOperator

structure Sample where
  name : String
  labels : List (String × String)
  value : Double
deriving DecidableEq, Repr

structure MetricFamily where
  name : String
  help : String
  kind : String
  samples : List Sample
deriving DecidableEq, Repr

namespace Sample

def escapeChar (c : Char) : String :=
  if c = '\\' then "\\\\"
  else if c = '\n' then "\\n"
  else if c = '\x22' then "\\\""
  else c.toString

def labelText (label : String × String) : String :=
  label.1 ++ "=\"" ++ String.join (label.2.toList.map escapeChar) ++ "\""

def text (s : Sample) : String :=
  s.name ++ "\x7b" ++ ",".intercalate (s.labels.map labelText) ++ "\x7d " ++ s.value.text

end Sample

def MetricFamily.lines (f : MetricFamily) : List String :=
  if f.samples.isEmpty then []
  else ("# HELP " ++ f.name ++ " " ++ f.help) :: ("# TYPE " ++ f.name ++ " " ++ f.kind) ::
    f.samples.map (·.text)

def valuesBefore : List String → List String → Bool
  | [], _ => true
  | _ :: _, [] => false
  | a :: as, b :: bs => a < b || (a = b && valuesBefore as bs)

def Series.sorted {κ α : Type} (values : κ → List String) (all : List (Series κ α)) :
    List (Series κ α) :=
  all.mergeSort fun a b => valuesBefore (values a.labels) (values b.labels)

namespace Metrics

def histogramSamples (name controller : String) (h : Histogram) : List Sample :=
  let label := ("controller", controller)
  let bucket (bound : String) (n : Nat) : Sample :=
    ⟨name ++ "_bucket", [label, ("le", bound)], .ofNat n⟩
  List.zipWith (fun bound n => bucket bound.text n) Histogram.bounds h.within ++
    [bucket "+Inf" h.count, ⟨name ++ "_sum", [label], h.sum⟩,
      ⟨name ++ "_count", [label], .ofNat h.count⟩]

def durationName : String := "serverless_operator_reconciliation_duration_seconds"

def durationFamily (m : Metrics) : MetricFamily where
  name := durationName
  help := "Duration of successful reconciliation passes"
  kind := "histogram"
  samples := (Series.sorted (fun controller => [controller]) m.durations).flatMap fun s =>
    histogramSamples durationName s.labels s.value

def passName : String := "serverless_operator_reconciliations_total"

def passFamily (m : Metrics) : MetricFamily where
  name := passName
  help := "Reconciliation passes by controller and result"
  kind := "counter"
  samples := (Series.sorted (fun l => [l.controller, l.result]) m.passes).map fun s =>
    ⟨passName, [("controller", s.labels.controller), ("result", s.labels.result)], .ofNat s.value⟩

def routeName : String := "serverless_operator_routes"

def routeFamily (m : Metrics) : MetricFamily where
  name := routeName
  help := "Routes currently derived from an Ingress"
  kind := "gauge"
  samples := (Series.sorted (fun o => [o.name, o.inNamespace]) m.routes).map fun s =>
    ⟨routeName, [("ingress", s.labels.name), ("ingress_namespace", s.labels.inNamespace)],
      .ofNat s.value⟩

def families (m : Metrics) : List MetricFamily := [m.durationFamily, m.passFamily, m.routeFamily]

def steadySamples (m : Metrics) : List Sample :=
  (m.families.flatMap (·.samples)).filter fun s =>
    [durationName ++ "_count", passName, routeName].contains s.name

def exposition (m : Metrics) : String :=
  String.join ((m.families.flatMap (·.lines)).map (· ++ "\n"))

end Metrics

end ServingOperator
