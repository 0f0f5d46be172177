import Tableside.Text.Digits

/-!
Binary floating-point numbers of 64 bits, in exact arithmetic on natural numbers.

A magnitude is the 63 bits below the sign; read as a number it is ordered as the values are.
`round?` takes a quotient to the nearest magnitude, a half to the even neighbour, and multiplication
and division by powers of ten round once. `shortest` finds the fewest decimal digits that still lie
in the interval of reals that round to the value.
-/

namespace Tableside

/-- A finite number: a sign and the bits below it. -/
structure Double where
  negative : Bool
  magnitude : Nat
deriving DecidableEq, Inhabited

namespace Double

/-- The lowest significand of full length, 2^52. -/
def hiddenBit : Nat := 1 <<< 52

/-- The bits of infinity; every finite magnitude is below. -/
def infinity : Nat := 0x7FF * hiddenBit

/-! ## Values -/

/-- The whole number `m` of the value `m * 2 ^ (place - 1074)`. -/
def significand (magnitude : Nat) : Nat :=
  if magnitude < hiddenBit then magnitude else magnitude % hiddenBit + hiddenBit

/-- How far the lowest bit of the significand stands above the lowest bit of all. -/
def place (magnitude : Nat) : Nat :=
  magnitude / hiddenBit - 1

/-- The value as numerator and denominator. -/
def ratio (magnitude : Nat) : Nat × Nat :=
  (significand magnitude <<< place magnitude, 1 <<< 1074)

/-! ## Rounding -/

/-- A quotient to the nearest whole number, a half to the even one. -/
def roundHalfEven (num den : Nat) : Nat :=
  let q := num / den
  let twice := 2 * (num % den)
  if den < twice ∨ (twice = den ∧ q % 2 = 1) then q + 1 else q

/-- The magnitude nearest to a quotient; none when it is too large. -/
def round? (num den : Nat) : Option Nat :=
  if num = 0 then some 0
  else
    let d : Int := Nat.log2 num - Nat.log2 den
    let reaches := if d < 0 then den ≤ num <<< (-d).toNat else den <<< d.toNat ≤ num
    let e : Int := max (if reaches then d - 52 else d - 53) (-1074)
    let q := if e < 0 then roundHalfEven (num <<< (-e).toNat) den
      else roundHalfEven num (den <<< e.toNat)
    let magnitude := (e + 1074).toNat * hiddenBit + q
    if magnitude < infinity then some magnitude else none

/-- The magnitude nearest to a power of ten. -/
def powerOfTen (k : Nat) : Nat :=
  (round? (Nat.pow 10 k) 1).getD infinity

/-- The product of two magnitudes, rounded; none when it is too large. -/
def mul? (a b : Nat) : Option Nat :=
  let (an, ad) := ratio a
  let (bn, bd) := ratio b
  round? (an * bn) (ad * bd)

/-- The quotient of two magnitudes, rounded; none when it is too large. -/
def div? (a b : Nat) : Option Nat :=
  let (an, ad) := ratio a
  let (bn, bd) := ratio b
  round? (an * bd) (ad * bn)

/-- A magnitude times ten to `exponent`. Up to 308 places this is one multiplication or division;
a smaller number is first divided by 10^308, which two such steps take to zero. -/
def scale? : (steps : Nat) → (magnitude : Nat) → (exponent : Int) → Option Nat
  | steps, m, exponent =>
    if exponent.natAbs ≤ 308 then
      let pow := powerOfTen exponent.natAbs
      if 0 ≤ exponent then mul? m pow else div? m pow
    else if m = 0 then some 0
    else if 0 < exponent then none
    else
      match steps with
      | 0 => some 0
      | steps + 1 => (div? m (powerOfTen 308)).bind fun m => scale? steps m (exponent + 308)

/-- The number `significand * 10 ^ exponent` as decimals are read: the significand is rounded, then
the product. -/
def ofDecimal? (negative : Bool) (significand : Nat) (exponent : Int) : Option Double :=
  ((round? significand 1).bind fun m => scale? 3 m exponent).map (⟨negative, ·⟩)

/-! ## Shortest digits -/

/-- The reals that round to a magnitude, in quarters of its last place: the lower end, the value and
the upper end. Below a power of two the neighbour is half as far. -/
def quarters (magnitude : Nat) : Nat × Nat × Nat :=
  let m := significand magnitude
  let lower := if m = hiddenBit ∧ 2 * hiddenBit ≤ magnitude then 4 * m - 1 else 4 * m - 2
  (lower, 4 * m, 4 * m + 2)

/-- The multiple of the grid nearest to the value that lies in the interval, in grid steps. All
bounds are given in the same unit as the step. -/
def gridPoint? (closed : Bool) (low value high step : Nat) : Option Nat :=
  let inside := fun (d : Nat) =>
    if closed then low ≤ d * step && d * step ≤ high else low < d * step && d * step < high
  let below := value / step
  let twice := 2 * (value % step)
  let nearer := if twice < step ∨ (twice = step ∧ below % 2 = 0) then below else below + 1
  let further := if nearer = below then below + 1 else below
  if 0 < nearer ∧ inside nearer then some nearer
  else if 0 < further ∧ inside further then some further
  else none

/-- Searches the decimal grids from `10 ^ k` downward for one with a point in the interval. -/
def search (closed : Bool) (low value high den : Nat) : (steps : Nat) → (k : Int) → Nat × Int
  | 0, k => (0, k)
  | steps + 1, k =>
    let up := Nat.pow 10 (-k).toNat
    match gridPoint? closed (low * up) (value * up) (high * up) (den * Nat.pow 10 k.toNat) with
    | some d => (d, k)
    | none => search closed low value high den steps (k - 1)

/-- The fewest digits `d` with `d * 10 ^ k` in the interval of reals that round to a magnitude that
is not zero. -/
def shortest (magnitude : Nat) : Nat × Int :=
  let (low, value, high) := quarters magnitude
  let p := place magnitude
  let (up, den) := if 1076 ≤ p then (1 <<< (p - 1076), 1) else (1, 1 <<< (1076 - p))
  let size : Int := Nat.log2 (significand magnitude) + p - 1074
  search (significand magnitude % 2 == 0) (low * up) (value * up) (high * up) den 24
    (size * 30103 / 100000 + 2)

/-! ## Text -/

/-- Digits `ds` times ten to `k`, positional while the point stands within sixteen digits and at
most five zeros lead, otherwise with an exponent. A whole number keeps one zero after the point. -/
def layout (ds : List Char) (k : Int) : List Char :=
  let point : Int := ds.length + k
  if 0 ≤ k ∧ point ≤ 16 then ds ++ List.replicate k.toNat '0' ++ ['.', '0']
  else if 0 < point ∧ point ≤ 16 then ds.take point.toNat ++ '.' :: ds.drop point.toNat
  else if -5 < point ∧ point ≤ 0 then
    '0' :: '.' :: (List.replicate (-point).toNat '0' ++ ds)
  else
    let lead := ds.take 1
    let rest := ds.drop 1
    lead ++ (if rest.isEmpty then [] else '.' :: rest) ++ 'e' :: Text.decimalInt (point - 1)

/-- The text of a number. -/
def chars (x : Double) : List Char :=
  let body :=
    if x.magnitude = 0 then ['0', '.', '0']
    else
      let (d, k) := shortest x.magnitude
      layout (Text.decimal d) k
  if x.negative then '-' :: body else body

end Double

end Tableside
