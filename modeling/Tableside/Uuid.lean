import Tableside.Text.Digits

/-!
Identifiers of 128 bits.

They are ordered as their sixteen bytes are, which is the order of the number they spell. They are
written as thirty-two lower-case hexadecimal digits in five groups; the readers also take the digits
without hyphens, the groups in braces and the groups after `urn:uuid:`, in letters of either case.
-/

namespace Tableside

/-- An identifier of 128 bits. -/
structure Uuid where
  bits : BitVec 128
deriving DecidableEq, Inhabited

namespace Uuid

/-- The number that the sixteen bytes spell, the first byte the highest. -/
def toNat (u : Uuid) : Nat :=
  u.bits.toNat

/-- The identifier of a number below 2^128. -/
def ofNat (n : Nat) : Uuid :=
  ⟨BitVec.ofNat 128 n⟩

/-- The order of identifiers, byte by byte. -/
instance : LT Uuid := ⟨fun a b => a.toNat < b.toNat⟩
instance : LE Uuid := ⟨fun a b => a.toNat ≤ b.toNat⟩
instance (a b : Uuid) : Decidable (a < b) := inferInstanceAs (Decidable (a.toNat < b.toNat))
instance (a b : Uuid) : Decidable (a ≤ b) := inferInstanceAs (Decidable (a.toNat ≤ b.toNat))

theorem toNat_injective {a b : Uuid} (h : a.toNat = b.toNat) : a = b := by
  cases a; cases b
  exact congrArg Uuid.mk (BitVec.eq_of_toNat_eq h)

/-! ## Text -/

/-- The thirty-two digits. -/
def digits (u : Uuid) : List Char :=
  Text.fixedDigits 16 32 u.toNat

/-- The digits with hyphens after the eighth, twelfth, sixteenth and twentieth. -/
def hyphenated (ds : List Char) : List Char :=
  ds.take 8 ++ '-' :: (ds.drop 8).take 4 ++ '-' :: (ds.drop 12).take 4 ++ '-' ::
    (ds.drop 16).take 4 ++ '-' :: ds.drop 20

/-- The canonical text. -/
def toChars (u : Uuid) : List Char :=
  hyphenated u.digits

/-- The canonical text. -/
def text (u : Uuid) : String :=
  String.ofList u.toChars

/-- The digits without hyphens, the form that table tokens take. -/
def simpleText (u : Uuid) : String :=
  String.ofList u.digits

/-! ## Reading -/

/-- Thirty-two hexadecimal digits. -/
def ofDigits? (cs : List Char) : Option Uuid :=
  if cs.length = 32 then (Text.hex? cs).map ofNat else none

/-- The five groups with their hyphens. -/
def ofHyphenated? (cs : List Char) : Option Uuid :=
  let digits := cs.take 8 ++ (cs.drop 9).take 4 ++ (cs.drop 14).take 4 ++ (cs.drop 19).take 4 ++
    cs.drop 24
  if cs = hyphenated digits then ofDigits? digits else none

/-- Any of the four accepted forms. -/
def ofChars? (cs : List Char) : Option Uuid :=
  let rest := cs.drop 9
  if cs.length = 32 then ofDigits? cs
  else if cs.length = 36 then ofHyphenated? cs
  else if cs.length = 38 ∧ cs.head? = some '{' ∧ cs.getLast? = some '}' then
    ofHyphenated? (cs.drop 1).dropLast
  else if cs.length = 45 ∧ (cs.take 9).map Char.toLower = "urn:uuid:".toList then
    ofHyphenated? rest
  else none

/-- Any of the four accepted forms. -/
def ofText? (s : String) : Option Uuid :=
  ofChars? s.toList

end Uuid

end Tableside
