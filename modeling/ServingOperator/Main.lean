import ServingOperator.Json.Writer
import ServingOperator.Wire.Definition

def main : IO Unit :=
  IO.println (ServingOperator.Json.write ServingOperator.KnativeServing.definition)
