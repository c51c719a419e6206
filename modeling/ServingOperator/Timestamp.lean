import ServingOperator.Instant
import ServingOperator.Text

namespace ServingOperator

namespace Timestamp

def skipBlanks (cs : List Char) : List Char := cs.dropWhile Text.isBlank

def number? (width : Nat) (cs : List Char) : Option (Nat × List Char) :=
  let cs := skipBlanks cs
  let digits := (cs.take width).takeWhile Text.isDigit
  if digits = [] then none else some (Text.ofDigits digits, cs.drop digits.length)

def year? (cs : List Char) : Option (Int × List Char) :=
  match skipBlanks cs with
  | '-' :: rest =>
    if rest.head?.any Text.isDigit then
      (number? rest.length rest).map fun (n, rest) => (-(n : Int), rest)
    else none
  | '+' :: rest =>
    if rest.head?.any Text.isDigit then
      (number? rest.length rest).map fun (n, rest) => ((n : Int), rest)
    else none
  | rest => (number? 4 rest).map fun (n, rest) => ((n : Int), rest)

def mark? (c : Char) (cs : List Char) : Option (List Char) :=
  match skipBlanks cs with
  | d :: rest => if d = c then some rest else none
  | [] => none

def fraction? : List Char → Option (List Char)
  | '.' :: rest =>
    if rest.head?.any Text.isDigit then some (rest.dropWhile Text.isDigit) else none
  | rest => some rest

def hoursMinutes? : List Char → Option (Nat × List Char)
  | a :: b :: rest =>
    match rest.dropWhile (fun c => c = ':' || Text.isBlank c) with
    | c :: d :: rest =>
      if [a, b, c, d].all Text.isDigit && c ≤ '5' then
        some (3600 * Text.ofDigits [a, b] + 60 * Text.ofDigits [c, d], rest)
      else none
    | _ => none
  | _ => none

def offset? (cs : List Char) : Option (Int × List Char) :=
  if (cs.take 3).map Char.toUpper = ['U', 'T', 'C'] then some (0, cs.drop 3)
  else match cs with
    | 'Z' :: rest | 'z' :: rest => some (0, rest)
    | '+' :: rest => (hoursMinutes? rest).map fun (n, rest) => ((n : Int), rest)
    | '-' :: rest | '−' :: rest => (hoursMinutes? rest).map fun (n, rest) => (-(n : Int), rest)
    | _ => none

def read? (text : String) : Option Instant := do
  let (year, cs) ← year? text.toList
  let (month, cs) ← number? 2 (← mark? '-' cs)
  let (day, cs) ← number? 2 (← mark? '-' cs)
  let cs ← match cs with
    | 't' :: cs | 'T' :: cs | ' ' :: cs => some cs
    | _ => none
  let (hour, cs) ← number? 2 cs
  let (minute, cs) ← number? 2 (← mark? ':' cs)
  let (second, cs) ← number? 2 (← mark? ':' cs)
  let cs ← fraction? cs
  let (offset, cs) ← offset? (skipBlanks cs)
  let date : Date := ⟨year, month, day⟩
  if date.isValid ∧ hour ≤ 23 ∧ minute ≤ 59 ∧ second ≤ 60 ∧ offset.natAbs < 86400 ∧
      skipBlanks cs = [] then
    let secondsOfDay : Nat := hour * 3600 + minute * 60 + min second 59
    let localSeconds := date.toDays * 86400 + secondsOfDay
    let _ ← Instant.ofUnix? localSeconds 0
    Instant.ofUnix? (localSeconds - offset) 0
  else none

end Timestamp

structure Timestamp where
  text : String
  denotes : (Timestamp.read? text).isSome = true

namespace Timestamp

theorem ext {a b : Timestamp} (h : a.text = b.text) : a = b := by
  cases a; cases b; cases h; rfl

instance : DecidableEq Timestamp := fun a b =>
  decidable_of_iff (a.text = b.text) ⟨ext, fun h => h ▸ rfl⟩

def ofText? (text : String) : Option Timestamp :=
  if h : (read? text).isSome = true then some ⟨text, h⟩ else none

theorem ofText?_text (t : Timestamp) : ofText? t.text = some t := dif_pos t.denotes

end Timestamp

end ServingOperator
