import ServingOperator.Text

namespace ServingOperator

structure Numeral where
  negative : Bool
  whole : List Char
  fraction : List Char
  exponent : Int
deriving DecidableEq, Repr, Inhabited

inductive Json where
  | null
  | bool (value : Bool)
  | int (value : Int)
  | real (value : Numeral)
  | str (value : String)
  | arr (items : List Json)
  | obj (members : List (String × Json))
  /-- A string, or an object with a key, that escapes half of a surrogate pair: it can be skipped
      and not read. -/
  | unreadable
deriving Inhabited

namespace Json

def occurrences (key : String) (members : List (String × Json)) : List Json :=
  members.filterMap fun m => if m.1 = key then some m.2 else none

def get? (key : String) : Json → Option Json
  | obj members => (occurrences key members).getLast?
  | _ => none

def text? : Json → Option String
  | str s => some s
  | _ => none

def bool? : Json → Option Bool
  | bool b => some b
  | _ => none

def int? : Json → Option Int
  | int n => some n
  | _ => none

def items? : Json → Option (List Json)
  | arr items => some items
  | _ => none

def orNull? {α : Type} (read : Json → Option α) : Json → Option (Option α)
  | null => some none
  | j => (read j).map some

end Json

end ServingOperator
