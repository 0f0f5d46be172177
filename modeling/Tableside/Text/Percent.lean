import Tableside.Text.Digits
import Tableside.Text.Split
import Tableside.Text.Utf8

/-!
Percent coding as it occurs in request targets.

A percent sign with two hexadecimal digits stands for a byte and every other character for its own
bytes; a percent sign without them stands for itself. Path segments decode strictly, query texts
take `+` for a space and replace what is no text.
-/

namespace Tableside.Text.Percent

/-- The bytes that a percent-coded text stands for. -/
def bytes : List Char → List UInt8
  | [] => []
  | '%' :: h :: l :: rest =>
    match hexValue? h, hexValue? l with
    | some h, some l => UInt8.ofNat (h * 16 + l) :: bytes rest
    | _, _ => utf8 "%" ++ bytes (h :: l :: rest)
  | c :: rest => utf8 c.toString ++ bytes rest

/-- A path segment; none when its bytes are no text. -/
def segment? (s : String) : Option String :=
  ofUtf8? (bytes s.toList)

/-- A name or value of a query. -/
def formText (s : List Char) : String :=
  ofUtf8Lossy (bytes (s.map fun c => if c = '+' then ' ' else c))

/-- The pairs of a query, in order. A piece without `=` is a name with an empty value and an empty
piece is no pair. -/
def formPairs (query : String) : List (String × String) :=
  (splitAll '&' query.toList).filterMap fun piece =>
    if piece.isEmpty then none
    else
      match splitOnce '=' piece with
      | some (name, value) => some (formText name, formText value)
      | none => some (formText piece, "")

end Tableside.Text.Percent
