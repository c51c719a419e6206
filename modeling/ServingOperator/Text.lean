namespace ServingOperator.Text

def isDigit (c : Char) : Bool := '0' ≤ c && c ≤ '9'

def digitValue (c : Char) : Nat := c.toNat - '0'.toNat

def ofDigits (cs : List Char) : Nat := cs.foldl (fun n c => 10 * n + digitValue c) 0

def natBelow? (bound : Nat) (cs : List Char) : Option Nat :=
  if cs ≠ [] ∧ cs.all isDigit ∧ ofDigits cs < bound then some (ofDigits cs) else none

def hexDigit? (c : Char) : Option Nat :=
  if isDigit c then some (digitValue c)
  else if 'a' ≤ c ∧ c ≤ 'f' then some (c.toNat - 'a'.toNat + 10)
  else if 'A' ≤ c ∧ c ≤ 'F' then some (c.toNat - 'A'.toNat + 10)
  else none

def blanks : List Nat :=
  [0x9, 0xa, 0xb, 0xc, 0xd, 0x20, 0x85, 0xa0, 0x1680, 0x2000, 0x2001, 0x2002, 0x2003, 0x2004,
   0x2005, 0x2006, 0x2007, 0x2008, 0x2009, 0x200a, 0x2028, 0x2029, 0x202f, 0x205f, 0x3000]

def isBlank (c : Char) : Bool := blanks.contains c.toNat

def trim (cs : List Char) : List Char :=
  ((cs.dropWhile isBlank).reverse.dropWhile isBlank).reverse

/-- The stretches between the places where `sep` stands; always at least one. -/
def splitAt (sep : Char) : List Char → List (List Char)
  | [] => [[]]
  | c :: cs =>
    if c = sep then [] :: splitAt sep cs
    else match splitAt sep cs with
      | [] => [[c]]
      | first :: rest => (c :: first) :: rest

def replacement : Char := '\ufffd'

structure Lead where
  tails : Nat
  /-- The range of the first of them. It is narrower where other bytes would spell a character that
      has a shorter form, or none at all. -/
  low : UInt8
  high : UInt8
  bits : UInt8
deriving DecidableEq, Repr

def lead? (b : UInt8) : Option Lead :=
  if b < 0x80 then some ⟨0, 0x80, 0xbf, b⟩
  else if b < 0xc2 then none
  else if b < 0xe0 then some ⟨1, 0x80, 0xbf, b &&& 0x1f⟩
  else if b < 0xf0 then
    some ⟨2, if b = 0xe0 then 0xa0 else 0x80, if b = 0xed then 0x9f else 0xbf, b &&& 0x0f⟩
  else if b < 0xf5 then
    some ⟨3, if b = 0xf0 then 0x90 else 0x80, if b = 0xf4 then 0x8f else 0xbf, b &&& 0x07⟩
  else none

def tailLength : Nat → UInt8 → UInt8 → List UInt8 → Nat
  | 0, _, _, _ => 0
  | _, _, _, [] => 0
  | most + 1, low, high, b :: bytes =>
    if low ≤ b && b ≤ high then tailLength most 0x80 0xbf bytes + 1 else 0

def character (lead : Lead) (tails : List UInt8) : Char :=
  if tails.length = lead.tails then
    Char.ofNat (tails.foldl (fun n b => 64 * n + (b &&& 0x3f).toNat) lead.bits.toNat)
  else replacement

def ofUtf8 : List UInt8 → List Char
  | [] => []
  | b :: bytes =>
    match lead? b with
    | none => replacement :: ofUtf8 bytes
    | some lead =>
      let n := tailLength lead.tails lead.low lead.high bytes
      character lead (bytes.take n) :: ofUtf8 (bytes.drop n)
termination_by bytes => bytes.length
decreasing_by
  · simp
  · simp only [List.length_drop, List.length_cons]
    omega

end ServingOperator.Text
