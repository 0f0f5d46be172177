/-!
Base64 over the alphabet `A-Z a-z 0-9 - _`, without padding.

`encode` turns bytes into sextets, three bytes to four characters, and a tail of one or two bytes
to two or three characters. `decode` accepts exactly such texts: no padding, no other character, no
group of one character, and no tail whose unused bits are set.
-/

namespace Tableside.Text.Base64Url

/-! ## The alphabet -/

/-- The character of a sextet. -/
def letter (n : Nat) : Char :=
  if n < 26 then Char.ofNat (65 + n)
  else if n < 52 then Char.ofNat (97 + (n - 26))
  else if n < 62 then Char.ofNat (48 + (n - 52))
  else if n = 62 then '-'
  else '_'

/-- The sextet of a character of the alphabet. -/
def sextet? (c : Char) : Option Nat :=
  let n := c.toNat
  if 65 ≤ n ∧ n ≤ 90 then some (n - 65)
  else if 97 ≤ n ∧ n ≤ 122 then some (n - 97 + 26)
  else if 48 ≤ n ∧ n ≤ 57 then some (n - 48 + 52)
  else if n = 45 then some 62
  else if n = 95 then some 63
  else none

/-! ## Encoding and decoding -/

/-- The text of a list of bytes. -/
def encode : List UInt8 → List Char
  | a :: b :: c :: rest =>
    let (a, b, c) := (a.toNat, b.toNat, c.toNat)
    letter (a / 4) :: letter (a % 4 * 16 + b / 16) :: letter (b % 16 * 4 + c / 64) ::
      letter (c % 64) :: encode rest
  | [a, b] =>
    let (a, b) := (a.toNat, b.toNat)
    [letter (a / 4), letter (a % 4 * 16 + b / 16), letter (b % 16 * 4)]
  | [a] => [letter (a.toNat / 4), letter (a.toNat % 4 * 16)]
  | [] => []

/-- The bytes of a list of sextets; none for a tail that no bytes have. -/
def bytes? : List Nat → Option (List UInt8)
  | a :: b :: c :: d :: rest =>
    (bytes? rest).map fun tail =>
      UInt8.ofNat (a * 4 + b / 16) :: UInt8.ofNat (b % 16 * 16 + c / 4) ::
        UInt8.ofNat (c % 4 * 64 + d) :: tail
  | [a, b, c] =>
    if c % 4 = 0 then
      some [UInt8.ofNat (a * 4 + b / 16), UInt8.ofNat (b % 16 * 16 + c / 4)]
    else none
  | [a, b] => if b % 16 = 0 then some [UInt8.ofNat (a * 4 + b / 16)] else none
  | [_] => none
  | [] => some []

/-- The bytes of a text in the alphabet. -/
def decode (cs : List Char) : Option (List UInt8) :=
  (cs.mapM sextet?).bind bytes?

end Tableside.Text.Base64Url
