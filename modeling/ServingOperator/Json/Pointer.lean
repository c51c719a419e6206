import ServingOperator.Json.Basic
import ServingOperator.Text

namespace ServingOperator.Json

/-- A step of a pointer without its escapes: `~1` stands for a slash and `~0` for a tilde. -/
def unescape : List Char → List Char
  | '~' :: '1' :: cs => '/' :: unescape cs
  | '~' :: '0' :: cs => '~' :: unescape cs
  | c :: cs => c :: unescape cs
  | [] => []

def position? (step : List Char) : Option Nat :=
  match step with
  | ['0'] => some 0
  | '0' :: _ => none
  | _ => Text.natBelow? UInt64.size step

def child? (j : Json) (step : List Char) : Option Json :=
  match j with
  | obj _ => j.get? (String.ofList (unescape step))
  | arr items => (position? step).bind fun i => items[i]?
  | _ => none

def pointer? (j : Json) (path : String) : Option Json :=
  match Text.splitAt '/' path.toList with
  | [] :: steps => steps.foldlM child? j
  | _ => none

end ServingOperator.Json
