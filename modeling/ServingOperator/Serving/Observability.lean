import ServingOperator.Serving.ConfigSections

namespace ServingOperator

structure MonitoringDecision where
  enabled : Bool
  writeNoBackend : Bool
deriving DecidableEq, Repr

namespace MonitoringDecision

def labelKey : String := "serving.knative.openshift.io/enable-monitoring"

def label (d : MonitoringDecision) : String := if d.enabled then "true" else "false"

def of (config : ConfigSections) (switch : Option Bool) : MonitoringDecision :=
  match config.get? ConfigKey.observability ConfigKey.metricsBackend with
  | some backend => ⟨backend ≠ ConfigKey.noBackend, false⟩
  | none =>
    match switch with
    | some enabled => ⟨enabled, !enabled⟩
    | none => ⟨true, false⟩

end MonitoringDecision

def ConfigSections.applyMonitoring (config : ConfigSections) (switch : Option Bool) :
    MonitoringDecision × ConfigSections :=
  let decision := MonitoringDecision.of config switch
  (decision,
    if decision.writeNoBackend then
      config.set ConfigKey.observability ConfigKey.metricsBackend ConfigKey.noBackend
    else config)

namespace Logging

def revisionUrlTemplate (host : String) : String :=
  "https://" ++ host ++ "/app/kibana#/discover?_a=(index:.all,query:" ++
    "'kubernetes.labels.serving_knative_dev%5C%2FrevisionUID:$\x7bREVISION_UID\x7d')"

end Logging

def ConfigSections.applyLogging (config : ConfigSections) (host : Option String) :
    Bool × ConfigSections :=
  match host with
  | none => (false, config)
  | some host =>
    if host = "" then (false, config)
    else config.setIfAbsent ConfigKey.observability ConfigKey.revisionUrlTemplate
      (Logging.revisionUrlTemplate host)

end ServingOperator
