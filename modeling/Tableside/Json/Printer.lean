import Tableside.Json.Value

/-!
The text of JSON values, without blanks.

In a string the quote, the backslash and the control characters are escaped and nothing else; those
with a short escape use it.
-/

namespace Tableside.Json

/-- A character inside a string. -/
def escape (c : Char) : List Char :=
  if c = '"' then ['\\', '"']
  else if c = '\\' then ['\\', '\\']
  else if c.toNat = 8 then ['\\', 'b']
  else if c.toNat = 12 then ['\\', 'f']
  else if c = '\n' then ['\\', 'n']
  else if c = '\r' then ['\\', 'r']
  else if c = '\t' then ['\\', 't']
  else if c.toNat < 32 then '\\' :: 'u' :: Text.fixedDigits 16 4 c.toNat
  else [c]

/-- A string between quotes. -/
def quote (s : String) : List Char :=
  '"' :: (s.toList.flatMap escape ++ ['"'])

mutual

/-- The text of a value. -/
def chars : Json → List Char
  | .null => "null".toList
  | .bool true => "true".toList
  | .bool false => "false".toList
  | .num n => n.chars
  | .str s => quote s
  | .arr [] => ['[', ']']
  | .arr (j :: rest) => '[' :: (chars j ++ itemChars rest)
  | .obj [] => ['{', '}']
  | .obj ((name, j) :: rest) => '{' :: (quote name ++ ':' :: (chars j ++ fieldChars rest))

/-- The items after the first, and the end of the array. -/
def itemChars : List Json → List Char
  | [] => [']']
  | j :: rest => ',' :: (chars j ++ itemChars rest)

/-- The fields after the first, and the end of the object. -/
def fieldChars : List (String × Json) → List Char
  | [] => ['}']
  | (name, j) :: rest => ',' :: (quote name ++ ':' :: (chars j ++ fieldChars rest))

end

/-- The text of a value. -/
def text (j : Json) : String :=
  String.ofList j.chars

end Tableside.Json
