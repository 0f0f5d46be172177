import Tableside.Json.Double

/-!
Numbers of JSON texts.

A number text without point and exponent that fits in 64 bits, with or without sign, is a whole
number; every other is a floating-point number, and `-0` is one too. Digits are gathered into a
significand of 64 bits; those that no longer fit count as places before the point and are lost after
it.
-/

namespace Tableside

/-- A number: whole, or floating. -/
inductive Number
  | int (value : Int)
  | double (value : Double)
deriving DecidableEq, Inhabited

/-- The parts of a number text. -/
structure NumberText where
  negative : Bool
  whole : List Char
  fraction : Option (List Char)
  /-- Whether the exponent is negative, and its digits. -/
  exponent : Option (Bool × List Char)

namespace NumberText

/-! ## Reading the parts -/

/-- The digits at the head of a text and what follows them. -/
def spanDigits : List Char → List Char × List Char
  | [] => ([], [])
  | c :: rest =>
    if Text.isDigit c then
      let (ds, rest) := spanDigits rest
      (c :: ds, rest)
    else ([], c :: rest)

/-- A point with its digits, if there is a point; none when no digit follows it. -/
def readFraction : List Char → Option (Option (List Char) × List Char)
  | '.' :: cs =>
    let (ds, rest) := spanDigits cs
    if ds.isEmpty then none else some (some ds, rest)
  | cs => some (none, cs)

/-- The sign and digits of an exponent. -/
def readExponentDigits (negative : Bool) (cs : List Char) :
    Option (Option (Bool × List Char) × List Char) :=
  let (ds, rest) := spanDigits cs
  if ds.isEmpty then none else some (some (negative, ds), rest)

/-- An exponent, if there is one; none when it has no digits. -/
def readExponent : List Char → Option (Option (Bool × List Char) × List Char)
  | c :: cs =>
    if c = 'e' ∨ c = 'E' then
      match cs with
      | '+' :: cs => readExponentDigits false cs
      | '-' :: cs => readExponentDigits true cs
      | cs => readExponentDigits false cs
    else some (none, c :: cs)
  | [] => some (none, [])

/-- A number at the head of a text, without its sign: no digit follows a leading zero. -/
def readUnsigned (negative : Bool) (cs : List Char) : Option (NumberText × List Char) := do
  let (whole, rest) := spanDigits cs
  if whole.isEmpty ∨ (whole.head? = some '0' ∧ 1 < whole.length) then none
  else
    let (fraction, rest) ← readFraction rest
    let (exponent, rest) ← readExponent rest
    some (⟨negative, whole, fraction, exponent⟩, rest)

/-- A number at the head of a text. -/
def read : List Char → Option (NumberText × List Char)
  | '-' :: cs => readUnsigned true cs
  | cs => readUnsigned false cs

/-! ## Value -/

/-- The largest significand. -/
def maxSignificand : Nat := UInt64.size - 1

/-- Appends digits to a significand while it stays within its bound; the digits left over. -/
def gather : (significand : Nat) → List Char → Nat × List Char
  | s, [] => (s, [])
  | s, c :: cs =>
    let next := s * 10 + (Text.digitValue? c).getD 0
    if next ≤ maxSignificand then gather next cs else (s, c :: cs)

/-- The largest exponent that is still told apart; exponents end there on both sides. -/
def maxExponent : Int := Int32.maxValue.toInt

/-- The value; none when it is too large. -/
def value? (t : NumberText) : Option Number :=
  let (s, left) := gather 0 t.whole
  let (significand, after) := match t.fraction with
    | none => (s, 0)
    | some ds =>
      let (s, lost) := gather s ds
      (s, ds.length - lost.length)
  let start : Int := (left.length : Int) - after
  match t.fraction, t.exponent with
  | none, none =>
    if left.isEmpty ∧ ¬t.negative then some (.int significand)
    else if left.isEmpty ∧ 0 < significand ∧ significand ≤ Int64.minValue.toInt.natAbs then
      some (.int (-significand))
    else (Double.ofDecimal? t.negative significand start).map .double
  | _, none => (Double.ofDecimal? t.negative significand start).map .double
  | _, some (down, ds) =>
    let e : Int := Text.digitsValue ds
    if maxExponent < e then
      if significand ≠ 0 ∧ ¬down then none else some (.double ⟨t.negative, 0⟩)
    else
      let e := if down then max (start - e) (-maxExponent - 1) else min (start + e) maxExponent
      (Double.ofDecimal? t.negative significand e).map .double

/-- Whether a number that is too large is given up before its last digit: reading an exponent stops
at the digit that takes it over the largest. -/
def givenUpMidway (t : NumberText) : Bool :=
  match t.exponent with
  | some (_, ds) => maxExponent < Text.digitsValue ds.dropLast
  | none => false

end NumberText

namespace Number

/-- The text of a number. -/
def chars : Number → List Char
  | .int z => Text.decimalInt z
  | .double x => x.chars

/-- The number that the text of a number is read as. A whole number is itself; a floating-point
number can come back as its neighbour, since reading rounds twice. -/
def reread (n : Number) : Number :=
  match n with
  | .int z => .int z
  | .double x => (((NumberText.read x.chars).bind fun t => t.1.value?)).getD n

end Number

end Tableside
