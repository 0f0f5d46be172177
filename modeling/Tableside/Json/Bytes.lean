import Tableside.Json.Reader
import Tableside.Text.Utf8

/-!
JSON texts that come as bytes.

Whether the bytes of a string encode a text is asked only where the string is read, as it is asked
of surrogates. So a string whose bytes encode none is taken for one that ends in a lone surrogate:
it is passed over, and refused, in the same places. Outside strings every byte is an ASCII
character.
-/

namespace Tableside.Json

/-- The characters between the quotes of a string. When the bytes encode no text, their ASCII
characters are kept, so that faults that stand before the end of the string are still found. -/
def quotedChars (bytes : List UInt8) : List Char :=
  match Text.ofUtf8? bytes with
  | some s => s.toList
  | none =>
    let ascii := bytes.map fun b => if b < 128 then Char.ofNat b.toNat else '?'
    match readString (ascii ++ ['"']) with
    | some (.str _, _) => ascii ++ "\\ud800".toList
    | _ => ascii

/-- The characters of a text. `quoted` holds the bytes since the quote that began a string, the last
one first; none outside strings. -/
def charsOfBytes : (quoted : Option (List UInt8)) → List UInt8 → Option (List Char)
  | none, [] => some []
  | some _, [] => none
  | none, b :: rest =>
    if b = 34 then (charsOfBytes (some []) rest).map ('"' :: ·)
    else if b < 128 then (charsOfBytes none rest).map (Char.ofNat b.toNat :: ·)
    else none
  | some bytes, 92 :: b :: rest => charsOfBytes (some (b :: 92 :: bytes)) rest
  | some bytes, b :: rest =>
    if b = 34 then
      (charsOfBytes none rest).map fun cs => quotedChars bytes.reverse ++ '"' :: cs
    else charsOfBytes (some (b :: bytes)) rest

/-- The text of bytes; none when it cannot be JSON. -/
def textOfBytes? (bytes : List UInt8) : Option String :=
  (charsOfBytes none bytes).map String.ofList

end Tableside.Json
