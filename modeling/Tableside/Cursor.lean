import Tableside.Text.Base64Url
import Tableside.Text.Blank
import Tableside.Text.Split
import Tableside.Text.Utf8
import Tableside.Time.Rfc3339
import Tableside.Uuid

/-!
Resume points of order listings.

A cursor names the last row a client has seen by its creation time and id. Its key is the time with
nine fraction digits, a bar and the id; its token is the key in base64. `decode` takes any token
whose bytes spell a time and an id, with blanks around it or not, and gives none for every other.
-/

namespace Tableside

/-- The position of a row in a listing. -/
structure Cursor where
  createdAt : Instant
  id : Uuid
deriving DecidableEq

namespace Cursor

/-- The character between time and id. -/
def separator : Char := '|'

/-- The text that a token carries. -/
def keyChars (c : Cursor) : List Char :=
  c.createdAt.nanoChars ++ separator :: c.id.toChars

/-- The token of a cursor. -/
def encode (c : Cursor) : String :=
  String.ofList (Text.Base64Url.encode (Text.utf8 (String.ofList c.keyChars)))

/-- The cursor that a key spells. -/
def ofKey? (cs : List Char) : Option Cursor := do
  let (time, id) ← Text.splitOnce separator cs
  let createdAt ← Instant.ofChars? time
  let id ← Uuid.ofChars? id
  some ⟨createdAt, id⟩

/-- The cursor of a token. -/
def decode (token : String) : Option Cursor := do
  let bytes ← Text.Base64Url.decode (Text.trimChars token.toList)
  let key ← Text.ofUtf8? bytes
  ofKey? key.toList

end Cursor

end Tableside
