import ServingOperator.Json.Basic
import ServingOperator.StringMap
import ServingOperator.Timestamp

namespace ServingOperator

structure Quantity where
  text : String
deriving DecidableEq, Repr

inductive PortRef where
  | name (text : String)
  | number (value : Int32)
deriving DecidableEq, Repr

namespace Json

def int32? : Json → Option Int32
  | int n =>
    if Int32.minValue.toInt ≤ n ∧ n ≤ Int32.maxValue.toInt then some (Int32.ofInt n) else none
  | _ => none

def int64? : Json → Option Int64
  | int n =>
    if Int64.minValue.toInt ≤ n ∧ n ≤ Int64.maxValue.toInt then some (Int64.ofInt n) else none
  | _ => none

/-- An amount is a string, or an integer that fits 64 bits with or without a sign. -/
def quantity? : Json → Option Quantity
  | str s => some ⟨s⟩
  | int n => if Int64.minValue.toInt ≤ n ∧ n < UInt64.size then some ⟨toString n⟩ else none
  | _ => none

def portRef? : Json → Option PortRef
  | str s => some (.name s)
  | j => (int32? j).map .number

theorem int32?_toInt (n : Int32) : int32? (.int n.toInt) = some n := by
  rw [int32?, if_pos ⟨Int32.minValue_le_toInt n, Int32.toInt_le n⟩, Int32.ofInt_toInt]

theorem int64?_toInt (n : Int64) : int64? (.int n.toInt) = some n := by
  rw [int64?, if_pos ⟨Int64.minValue_le_toInt n, Int64.toInt_le n⟩, Int64.ofInt_toInt]

end Json

structure ResourceKind where
  group : String
  version : String
  kind : String
  plural : String
deriving DecidableEq, Repr

def ResourceKind.apiVersion (k : ResourceKind) : String := k.group ++ "/" ++ k.version

structure ObjectMeta where
  name : Option String := none
  generateName : Option String := none
  inNamespace : Option String := none
  uid : Option String := none
  generation : Option Int64 := none
  labels : Option (StringMap String) := none
  annotations : Option (StringMap String) := none
  finalizers : Option (List String) := none
  deletionTimestamp : Option Timestamp := none
deriving DecidableEq

namespace ObjectMeta

def nameAny (m : ObjectMeta) : String := (m.name.or m.generateName).getD ""

def labelMap (m : ObjectMeta) : StringMap String := m.labels.getD ∅

def annotationMap (m : ObjectMeta) : StringMap String := m.annotations.getD ∅

def finalizerList (m : ObjectMeta) : List String := m.finalizers.getD []

def shown (m : ObjectMeta) : ObjectMeta := { m with deletionTimestamp := none }

end ObjectMeta

structure Resource (σ τ : Type) where
  metadata : ObjectMeta
  spec : σ
  status : Option τ := none
deriving DecidableEq

end ServingOperator
