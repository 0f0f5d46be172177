/-!
Numbers as digits: fixed-width digits in a base up to sixteen, plain decimals, and the reading of
both. Letters stand for the digits from ten and are written in lower case and read in either case.
-/

namespace Tableside.Text

/-! ## Writing -/

/-- The last `width` digits of `n` in base `base`, the highest first. -/
def fixedDigits (base : Nat) : (width : Nat) → (n : Nat) → List Char
  | 0, _ => []
  | width + 1, n => fixedDigits base width (n / base) ++ [Nat.digitChar (n % base)]

/-- The decimal digits of `n`, without leading zeros. -/
def decimal (n : Nat) : List Char :=
  Nat.toDigits 10 n

/-- The decimal digits of `z` after a minus sign when it is negative. -/
def decimalInt (z : Int) : List Char :=
  if z < 0 then '-' :: decimal z.natAbs else decimal z.natAbs

/-! ## Reading -/

/-- The value of a digit in base sixteen. -/
def hexValue? (c : Char) : Option Nat :=
  if '0' ≤ c ∧ c ≤ '9' then some (c.toNat - '0'.toNat)
  else if 'a' ≤ c ∧ c ≤ 'f' then some (c.toNat - 'a'.toNat + 10)
  else if 'A' ≤ c ∧ c ≤ 'F' then some (c.toNat - 'A'.toNat + 10)
  else none

/-- The value of a decimal digit. -/
def digitValue? (c : Char) : Option Nat :=
  if '0' ≤ c ∧ c ≤ '9' then some (c.toNat - '0'.toNat) else none

/-- A decimal digit. -/
def isDigit (c : Char) : Bool :=
  '0' ≤ c && c ≤ '9'

/-- The number that a list of digit values spells in a base. -/
def ofDigits (base : Nat) (ds : List Nat) : Nat :=
  ds.foldl (fun n d => n * base + d) 0

/-- The number that hexadecimal digits spell; none when a character is no such digit. -/
def hex? (cs : List Char) : Option Nat :=
  (cs.mapM hexValue?).map (ofDigits 16)

/-- The number that decimal digits spell; none for no digits or another character. -/
def nat? (cs : List Char) : Option Nat :=
  if cs.isEmpty then none else (cs.mapM digitValue?).map (ofDigits 10)

/-- A decimal of at most `max`, with or without a plus sign. -/
def natUpTo? (max : Nat) (cs : List Char) : Option Nat :=
  (nat? (if cs.head? = some '+' then cs.drop 1 else cs)).filter (· ≤ max)

/-- The number that decimal digits spell, every other character counting as zero. -/
def digitsValue (cs : List Char) : Nat :=
  ofDigits 10 (cs.map fun c => (digitValue? c).getD 0)

/-- A decimal with an optional sign in front, as numbers in queries are written. -/
def int? : List Char → Option Int
  | '-' :: cs => (nat? cs).map fun n => -(n : Int)
  | '+' :: cs => (nat? cs).map fun n => (n : Int)
  | cs => (nat? cs).map fun n => (n : Int)

end Tableside.Text
