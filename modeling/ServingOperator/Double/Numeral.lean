import ServingOperator.Double
import ServingOperator.Json.Basic
import ServingOperator.Text

namespace ServingOperator.Double

structure Scaled where
  significand : Nat
  exponent : Int
deriving DecidableEq, Repr

namespace Scaled

def fits (s : Scaled) (digit : Nat) : Bool := s.significand * 10 + digit < UInt64.size

/-- Takes in the digits before the point. From the first one on that does not fit, each only
    counts as a power of ten. -/
def takeWhole (s : Scaled) : List Char → Scaled
  | [] => s
  | c :: cs =>
    if s.fits (Text.digitValue c) then
      takeWhole { s with significand := s.significand * 10 + Text.digitValue c } cs
    else { s with exponent := s.exponent + (c :: cs).length }

def takeFraction (s : Scaled) : List Char → Scaled
  | [] => s
  | c :: cs =>
    if s.fits (Text.digitValue c) then
      takeFraction ⟨s.significand * 10 + Text.digitValue c, s.exponent - 1⟩ cs
    else s

end Scaled

def powerOfTen (n : Nat) : Nat := nearest (Nat.pow 10 n * one) 1

def greatestPower : Nat := 308

def divideByTens (size exponent : Nat) : Nat :=
  if exponent ≤ greatestPower then nearest (size * one) (powerOfTen exponent)
  else if size = 0 then 0
  else divideByTens (nearest (size * one) (powerOfTen greatestPower)) (exponent - greatestPower)
termination_by exponent
decreasing_by simp only [greatestPower] at *; omega

def Scaled.size? (s : Scaled) : Option Nat :=
  let size := nearest (s.significand * one) 1
  if s.exponent < 0 then some (divideByTens size s.exponent.natAbs)
  else if s.exponent ≤ greatestPower then
    let scaled := nearest (size * powerOfTen s.exponent.toNat) one
    if scaled < limit then some scaled else none
  else if size = 0 then some 0
  else none

def ofNumeral? (n : Numeral) : Option Double :=
  let whole := Scaled.takeWhole ⟨0, 0⟩ n.whole
  let digits := whole.takeFraction n.fraction
  let scaled : Scaled := { digits with exponent := digits.exponent + n.exponent }
  scaled.size?.map (ofSize n.negative)

def ofJson? : Json → Option Double
  | .int n => ofNumeral? ⟨n < 0, (toString n.natAbs).toList, [], 0⟩
  | .real n => ofNumeral? n
  | _ => none

end ServingOperator.Double
