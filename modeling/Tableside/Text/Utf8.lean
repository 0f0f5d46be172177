/-!
Texts as UTF-8 bytes: encoding, strict decoding, decoding that puts the replacement character in
place of what is no text, and the order of texts by their bytes.
-/

namespace Tableside.Text

/-! ## Encoding and strict decoding -/

/-- The bytes of a text. -/
def utf8 (s : String) : List UInt8 :=
  s.toUTF8.data.toList

/-- The text that the bytes encode, if they encode one. -/
def ofUtf8? (bytes : List UInt8) : Option String :=
  String.fromUTF8? ⟨bytes.toArray⟩

/-! ## Order -/

/-- Texts are ordered by their bytes. -/
def bytesLe (s t : String) : Bool :=
  decide (utf8 s ≤ utf8 t)

/-! ## Lossy decoding -/

/-- How a byte can begin a character: how many bytes follow it, and the range of the first of them.
A byte that begins none gives none. -/
def followers? (b : Nat) : Option (Nat × Nat × Nat) :=
  if b < 0x80 then some (0, 0, 0)
  else if 0xC2 ≤ b ∧ b ≤ 0xDF then some (1, 0x80, 0xBF)
  else if b = 0xE0 then some (2, 0xA0, 0xBF)
  else if b = 0xED then some (2, 0x80, 0x9F)
  else if 0xE1 ≤ b ∧ b ≤ 0xEF then some (2, 0x80, 0xBF)
  else if b = 0xF0 then some (3, 0x90, 0xBF)
  else if 0xF1 ≤ b ∧ b ≤ 0xF3 then some (3, 0x80, 0xBF)
  else if b = 0xF4 then some (3, 0x80, 0x8F)
  else none

/-- The bytes that belong together at the head of `bytes`: those of one character, or the longest
beginning of one, or a single byte that begins none. -/
def headLength (bytes : List UInt8) : Nat :=
  match bytes with
  | [] => 0
  | b :: rest =>
    match followers? b.toNat with
    | none => 1
    | some (count, low, high) =>
      let following := rest.take count
      let inRange := fun (i : Nat) (x : UInt8) =>
        if i = 0 then low ≤ x.toNat && x.toNat ≤ high else 0x80 ≤ x.toNat && x.toNat ≤ 0xBF
      1 + ((following.zipIdx.takeWhile fun (x, i) => inRange i x).length)

/-- The texts and beginnings of texts at the head, one after the other; `fuel` bounds their
number. -/
def lossyPieces : (fuel : Nat) → List UInt8 → List (List UInt8)
  | 0, _ => []
  | _, [] => []
  | fuel + 1, bytes =>
    bytes.take (headLength bytes) :: lossyPieces fuel (bytes.drop (headLength bytes))

/-- Decoding in which every ill-formed piece becomes one replacement character. -/
def ofUtf8Lossy (bytes : List UInt8) : String :=
  String.join <| (lossyPieces bytes.length bytes).map fun piece =>
    (ofUtf8? piece).getD "\uFFFD"

end Tableside.Text
