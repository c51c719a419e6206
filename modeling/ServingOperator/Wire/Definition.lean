import ServingOperator.Text.Lower
import ServingOperator.Wire.IngressFormat
import ServingOperator.Wire.RouteFormat
import ServingOperator.Wire.Schema
import ServingOperator.Wire.ServingFormat

namespace ServingOperator

structure PrinterColumn where
  name : String
  jsonPath : String
deriving DecidableEq, Repr

def PrinterColumn.json (c : PrinterColumn) : Json :=
  .obj [("name", .str c.name), ("type", .str "string"), ("jsonPath", .str c.jsonPath)]

namespace ResourceKind

def names (k : ResourceKind) : Json :=
  .obj [("categories", .arr []), ("kind", .str k.kind), ("plural", .str k.plural),
    ("shortNames", .arr []), ("singular", .str (Text.lower k.kind))]

/-- The schema of a whole object: its spec is required and its status is not. -/
def objectSchema {σ τ : Type} (k : ResourceKind) (spec : Format σ) (status : Format τ) : Json :=
  .obj [
    ("description",
      .str ("Auto-generated derived type for " ++ k.kind ++
        "Spec via \x60CustomResource\x60")),
    ("properties", .obj [("spec", .obj spec.schema),
      ("status", .obj (Json.allowNull status.schema))]),
    ("required", .arr [.str "spec"]),
    ("title", .str k.kind),
    ("type", .str "object")]

def definition {σ τ : Type} (k : ResourceKind) (spec : Format σ) (status : Format τ)
    (columns : List PrinterColumn) : Json :=
  .obj [
    ("apiVersion", .str "apiextensions.k8s.io/v1"),
    ("kind", .str "CustomResourceDefinition"),
    ("metadata", .obj [("name", .str (k.plural ++ "." ++ k.group))]),
    ("spec", .obj [
      ("group", .str k.group),
      ("names", k.names),
      ("scope", .str "Namespaced"),
      ("versions", .arr [.obj [
        ("additionalPrinterColumns", .arr (columns.map PrinterColumn.json)),
        ("name", .str k.version),
        ("schema", .obj [("openAPIV3Schema", k.objectSchema spec status)]),
        ("served", .bool true),
        ("storage", .bool true),
        ("subresources", .obj [("status", .obj [])])]])])]

end ResourceKind

def KnativeServing.definition : Json :=
  KnativeServing.kind.definition ServingSpec.format ServingStatus.format [
    ⟨"Version", ".status.version"⟩,
    ⟨"Ready", ".status.conditions[?(@.type==\"Ready\")].status"⟩,
    ⟨"Reason", ".status.conditions[?(@.type==\"Ready\")].reason"⟩]

def Ingress.definition : Json :=
  Ingress.kind.definition IngressSpec.format IngressStatus.format []

def Route.definition : Json :=
  Route.kind.definition RouteSpec.format RouteStatus.format []

end ServingOperator
