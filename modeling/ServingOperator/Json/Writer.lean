import ServingOperator.Json.Basic

namespace ServingOperator.Json

def hexText (n : Nat) : String :=
  let ds := Nat.toDigits 16 n
  String.ofList (List.replicate (4 - ds.length) '0' ++ ds)

def writeChar (c : Char) : String :=
  if c = '\x22' then "\\\""
  else if c = '\\' then "\\\\"
  else if c = '\n' then "\\n"
  else if c.toNat < 0x20 then "\\u" ++ hexText c.toNat
  else c.toString

def writeString (s : String) : String := "\"" ++ String.join (s.toList.map writeChar) ++ "\""

def writeNumeral (n : Numeral) : String :=
  (if n.negative then "-" else "") ++ String.ofList n.whole ++
    (if n.fraction = [] then "" else "." ++ String.ofList n.fraction) ++
    (if n.exponent = 0 then "" else "e" ++ toString n.exponent)

mutual

def write : Json → String
  | null => "null"
  | bool b => if b then "true" else "false"
  | int n => toString n
  | real n => writeNumeral n
  | str s => writeString s
  | arr items => "[" ++ writeItems items ++ "]"
  | obj members => "\x7b" ++ writeMembers members ++ "\x7d"
  | unreadable => "\"\\ud800\""

def writeItems : List Json → String
  | [] => ""
  | [j] => write j
  | j :: rest => write j ++ "," ++ writeItems rest

def writeMembers : List (String × Json) → String
  | [] => ""
  | [(k, j)] => writeString k ++ ":" ++ write j
  | (k, j) :: rest => writeString k ++ ":" ++ write j ++ "," ++ writeMembers rest

end

end ServingOperator.Json
