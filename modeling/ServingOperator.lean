import ServingOperator.Api.FactAnswers
import ServingOperator.Api.Http
import ServingOperator.Double
import ServingOperator.Double.Numeral
import ServingOperator.HealthServer
import ServingOperator.Ingress
import ServingOperator.Ingress.Routes
import ServingOperator.Instant
import ServingOperator.Json.Basic
import ServingOperator.Json.Pointer
import ServingOperator.Json.Reader
import ServingOperator.Json.Writer
import ServingOperator.Main
import ServingOperator.Metrics
import ServingOperator.Metrics.Exposition
import ServingOperator.OperatorConfig
import ServingOperator.Pass
import ServingOperator.Pass.Ingress
import ServingOperator.Pass.Script
import ServingOperator.Pass.Serving
import ServingOperator.Proofs.Ingress.Backlinks
import ServingOperator.Proofs.Ingress.Convergence
import ServingOperator.Proofs.Ingress.Exposure
import ServingOperator.Proofs.Ingress.Finalizer
import ServingOperator.Proofs.Ingress.FinalizerContention
import ServingOperator.Proofs.Ingress.Hosts
import ServingOperator.Proofs.Ingress.Isolation
import ServingOperator.Proofs.Ingress.Requests
import ServingOperator.Proofs.Ingress.RouteCount
import ServingOperator.Proofs.Ingress.Routes
import ServingOperator.Proofs.Ingress.Stages
import ServingOperator.Proofs.Ingress.Terms
import ServingOperator.Proofs.Ingress.World
import ServingOperator.Proofs.Json.MergePatch
import ServingOperator.Proofs.OperatorConfig.Settings
import ServingOperator.Proofs.Pass.Agenda
import ServingOperator.Proofs.Pass.Contention
import ServingOperator.Proofs.Pass.Ensures
import ServingOperator.Proofs.Pass.Sending
import ServingOperator.Proofs.Pass.Trace
import ServingOperator.Proofs.Route.Selection
import ServingOperator.Proofs.Route.Table
import ServingOperator.Proofs.Serving.BackendAgreement
import ServingOperator.Proofs.Serving.Blocking
import ServingOperator.Proofs.Serving.ConcurrentEdits
import ServingOperator.Proofs.Serving.ConditionHistory
import ServingOperator.Proofs.Serving.Conditions
import ServingOperator.Proofs.Serving.ConfigCalls
import ServingOperator.Proofs.Serving.ConfigCells
import ServingOperator.Proofs.Serving.ConfigWrites
import ServingOperator.Proofs.Serving.ForeignConditions
import ServingOperator.Proofs.Serving.Gates
import ServingOperator.Proofs.Serving.ImageLayers
import ServingOperator.Proofs.Serving.IngressClass
import ServingOperator.Proofs.Serving.PartialPass
import ServingOperator.Proofs.Serving.PassHistory
import ServingOperator.Proofs.Serving.Quiescence
import ServingOperator.Proofs.Serving.Replicas
import ServingOperator.Proofs.Serving.Requests
import ServingOperator.Proofs.Serving.ResourceOverrides
import ServingOperator.Proofs.Serving.Retry
import ServingOperator.Proofs.Serving.RuleOrder
import ServingOperator.Proofs.Serving.Separation
import ServingOperator.Proofs.Serving.SpecPatch
import ServingOperator.Proofs.Serving.SpecResolution
import ServingOperator.Proofs.Serving.StatusReplacement
import ServingOperator.Proofs.StringMap
import ServingOperator.Proofs.Text
import ServingOperator.Proofs.Text.Lower
import ServingOperator.Proofs.Version.Grammar
import ServingOperator.Proofs.Version.Order
import ServingOperator.Proofs.Wire.AdditivePatches
import ServingOperator.Proofs.Wire.Dicts
import ServingOperator.Proofs.Wire.Merging
import ServingOperator.Proofs.Wire.Paths
import ServingOperator.Proofs.Wire.RecordMembers
import ServingOperator.Proofs.Wire.RecordReading
import ServingOperator.Proofs.Wire.RoundTrip
import ServingOperator.Proofs.Wire.Tolerance
import ServingOperator.Resource
import ServingOperator.Route
import ServingOperator.Serving
import ServingOperator.Serving.Backend
import ServingOperator.Serving.ConfigSections
import ServingOperator.Serving.Defaults
import ServingOperator.Serving.Observability
import ServingOperator.Serving.Resolution
import ServingOperator.Sha256
import ServingOperator.StringMap
import ServingOperator.Text
import ServingOperator.Text.Lower
import ServingOperator.Text.Quoted
import ServingOperator.Timestamp
import ServingOperator.Version
import ServingOperator.Wire.Definition
import ServingOperator.Wire.Format
import ServingOperator.Wire.IngressFormat
import ServingOperator.Wire.RouteFormat
import ServingOperator.Wire.Schema
import ServingOperator.Wire.ServingFormat
