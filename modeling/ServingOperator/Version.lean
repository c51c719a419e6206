import ServingOperator.Text
import ServingOperator.Text.Quoted

namespace ServingOperator

structure Version where
  major : UInt64
  minor : UInt64
  patch : UInt64
deriving DecidableEq, Repr

inductive VersionError where
  | unparsable (raw : String)
  | tooLow (actual minimum : String)
deriving DecidableEq, Repr

def VersionError.reason : VersionError → String
  | unparsable _ => "VersionUnparsable"
  | tooLow _ _ => "VersionTooLow"

def VersionError.message : VersionError → String
  | unparsable raw =>
    "failed to parse version " ++ Text.quoted raw ++ ": expected [v]MAJOR.MINOR.PATCH"
  | tooLow actual minimum =>
    "kubernetes version " ++ actual ++ " is lower than the minimum supported version " ++ minimum

namespace Version

def component? (cs : List Char) : Option UInt64 :=
  (Text.natBelow? UInt64.size cs).map UInt64.ofNat

def withoutMark : List Char → List Char
  | 'v' :: cs => cs
  | cs => cs

/-- Without build and pre-release suffixes. A build suffix may hold a hyphen, so it goes first. -/
def core (cs : List Char) : List Char :=
  (cs.takeWhile (· != '+')).takeWhile (· != '-')

def ofComponents? : List (List Char) → Option Version
  | [a, b, c] => do return ⟨← component? a, ← component? b, ← component? c⟩
  | _ => none

def parse? (raw : String) : Option Version :=
  ofComponents? (Text.splitAt '.' (core (withoutMark (Text.trim raw.toList))))

def parse (raw : String) : Except VersionError Version :=
  match parse? raw with
  | some v => .ok v
  | none => .error (.unparsable raw)

def text (v : Version) : String :=
  toString v.major.toNat ++ "." ++ toString v.minor.toNat ++ "." ++ toString v.patch.toNat

protected def compare (a b : Version) : Ordering :=
  (compare a.major b.major).then ((compare a.minor b.minor).then (compare a.patch b.patch))

instance : Ord Version := ⟨Version.compare⟩

def checkMinimum (actual minimum : String) : Except VersionError Unit := do
  let a ← parse actual
  let m ← parse minimum
  match compare a m with
  | .lt => .error (.tooLow actual minimum)
  | .eq | .gt => .ok ()

end Version

end ServingOperator
