namespace ServingOperator

inductive Double where
  /-- So many times the least positive number, which is `2 ^ -1074`. -/
  | finite (units : Int)
  | infinite (negative : Bool)
deriving DecidableEq, Repr, Inhabited

namespace Double

def one : Nat := Nat.pow 2 1074

def limit : Nat := Nat.pow 2 2098

def quantum (units : Nat) : Nat := Nat.pow 2 (units.log2 - 52)

def roundHalfEven (num den : Nat) : Nat :=
  let below := num / den
  let rest := 2 * (num % den)
  if rest < den ∨ (rest = den ∧ below % 2 = 0) then below else below + 1

def nearest (num den : Nat) : Nat :=
  let step := quantum (num / den)
  roundHalfEven num (den * step) * step

def ofSize (negative : Bool) (size : Nat) : Double :=
  if limit ≤ size then infinite negative
  else finite (if negative then -(size : Int) else size)

def ofRatio (num den : Nat) : Double := ofSize false (nearest (num * one) den)

def ofNat (n : Nat) : Double := ofRatio n 1

def zero : Double := finite 0

/-- The sum, rounded. Of two infinite numbers the first one counts. -/
def add : Double → Double → Double
  | infinite s, _ => infinite s
  | finite _, infinite s => infinite s
  | finite a, finite b => ofSize (a + b < 0) (nearest (a + b).natAbs 1)

instance : Add Double := ⟨add⟩

def le : Double → Double → Bool
  | infinite s, b => s || b = infinite false
  | finite _, infinite s => !s
  | finite a, finite b => a ≤ b

end Double

namespace Double

structure RoundingRange where
  low : Nat
  high : Nat
  closed : Bool
deriving DecidableEq, Repr

def leastMantissa : Nat := Nat.pow 2 52

/-- The range of a size. Below a power of two the neighbour is only half as far. -/
def rangeOf (size : Nat) : RoundingRange :=
  let step := quantum size
  let mantissa := size / step
  let below := if mantissa = leastMantissa ∧ 1 < step then step else 2 * step
  ⟨4 * size - below, 4 * size + 2 * step, mantissa % 2 = 0⟩

def RoundingRange.contains (r : RoundingRange) (num den : Nat) : Bool :=
  if r.closed then r.low * den ≤ num && num ≤ r.high * den
  else r.low * den < num && num < r.high * den

/-- The multiple of a power of ten that stands for a size, if one does: of two neighbours that do
    the nearer one, and the upper one if they are equally near. -/
def onGrid? (size : Nat) (power : Int) : Option Nat :=
  let coarse := Nat.pow 10 power.toNat * one
  let fine := Nat.pow 10 (-power).toNat
  let below := size * fine / coarse
  let reads (n : Nat) := (rangeOf size).contains (4 * n * coarse) fine
  let nearBelow := 2 * (size * fine % coarse) < coarse
  match reads below, reads (below + 1) with
  | true, true => some (if nearBelow then below else below + 1)
  | true, false => some below
  | false, true => some (below + 1)
  | false, false => none

def positional (n : Nat) (power : Int) : String :=
  let places := (-power).toNat
  if places = 0 then toString (n * Nat.pow 10 power.toNat)
  else
    let unit := Nat.pow 10 places
    let fraction := toString (n % unit)
    toString (n / unit) ++ "." ++
      String.ofList (List.replicate (places - fraction.length) '0') ++ fraction

def sizeText (size : Nat) : String :=
  let digits := (toString (size / one)).length
  let found := (List.range (digits + 1075)).findSome? fun (i : Nat) =>
    let power := (digits : Int) - i
    (onGrid? size power).map fun n => positional n power
  found.getD ""

def text : Double → String
  | infinite true => "-inf"
  | infinite false => "inf"
  | finite units =>
    if units = 0 then "0"
    else (if units < 0 then "-" else "") ++ sizeText units.natAbs

end Double

end ServingOperator
