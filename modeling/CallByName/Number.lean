/-! Numbers are 64-bit signed integers. Arithmetic is exact or absent: an operation answers `none`
when its exact result leaves the range. Numerals are read from characters and written back in
decimal. -/

namespace CallByName

abbrev Number := Int64

namespace Number

def ofInt? (i : Int) : Option Number :=
  if h : Int64.minValue.toInt ≤ i ∧ i ≤ Int64.maxValue.toInt then some (Int64.ofIntLE i h.1 h.2)
  else none

theorem ofInt?_eq_some_iff {i : Int} {n : Number} : ofInt? i = some n ↔ n.toInt = i := by
  unfold ofInt?
  split
  · rename_i h
    rw [Option.some.injEq, ← Int64.toInt_inj, Int64.toInt_ofIntLE, eq_comm]
  · rename_i h
    refine ⟨fun hn => by simp at hn, fun hn => absurd ?_ h⟩
    exact hn ▸ ⟨Int64.minValue_le_toInt n, Int64.toInt_le n⟩

def add? (a b : Number) : Option Number := ofInt? (a.toInt + b.toInt)

def sub? (a b : Number) : Option Number := ofInt? (a.toInt - b.toInt)

def mul? (a b : Number) : Option Number := ofInt? (a.toInt * b.toInt)

def neg? (a : Number) : Option Number := ofInt? (-a.toInt)

def quot? (a b : Number) : Option Number := ofInt? (a.toInt.tdiv b.toInt)

def decimal (i : Int) : List Char :=
  if i < 0 then '-' :: Nat.toDigits 10 i.natAbs else Nat.toDigits 10 i.natAbs

def text (n : Number) : String := String.ofList (decimal n.toInt)

def areDigits (isDigit : Char → Bool) (cs : List Char) : Bool := !cs.isEmpty && cs.all isDigit

def decimalValue (ds : List Char) : Nat := Nat.ofDigitChars 10 ds 0

def ofDecimal? : List Char → Option Number
  | '-' :: ds => if areDigits Char.isDigit ds then ofInt? (-decimalValue ds) else none
  | ds => if areDigits Char.isDigit ds then ofInt? (decimalValue ds) else none

def isHexDigit (c : Char) : Bool :=
  c.isDigit || ('a' ≤ c && c ≤ 'f') || ('A' ≤ c && c ≤ 'F')

def hexDigitValue (c : Char) : Nat :=
  if c.isDigit then c.toNat - '0'.toNat
  else if 'a' ≤ c then c.toNat - 'a'.toNat + 10
  else c.toNat - 'A'.toNat + 10

def hexValue (ds : List Char) : Nat := ds.foldl (fun n c => 16 * n + hexDigitValue c) 0

def ofHex? (ds : List Char) : Option Number :=
  if areDigits isHexDigit ds then ofInt? (hexValue ds) else none

end Number

end CallByName
