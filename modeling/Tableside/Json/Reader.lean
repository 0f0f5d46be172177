import Tableside.Json.Node

/-!
Reading JSON texts into nodes.

Every reader takes the rest of the text and returns what it read with what follows it, or nothing
to follow when the text stopped being JSON inside. Blanks between tokens are space, tab, line feed
and carriage return. Values nest without bound here; decoders bound the depth of what they keep.
-/

namespace Tableside.Json

/-! ## Blanks and words -/

/-- The characters allowed between tokens. -/
def isSpace (c : Char) : Bool :=
  c = ' ' || c = '\t' || c = '\n' || c = '\r'

/-- The text without spaces at its head. -/
def skipSpace (cs : List Char) : List Char :=
  cs.dropWhile isSpace

/-- What follows a word at the head of a text. -/
def afterWord (word : List Char) (cs : List Char) : Option (List Char) :=
  if cs.take word.length = word then some (cs.drop word.length) else none

/-! ## Strings -/

/-- The code of four hexadecimal digits. -/
def hexCode? (a b c d : Char) : Option Nat :=
  Text.hex? [a, b, c, d]

/-- The character that a one-letter escape stands for. -/
def shortEscape? (c : Char) : Option Nat :=
  if c = '"' then some 34
  else if c = '\\' then some 92
  else if c = '/' then some 47
  else if c = 'b' then some 8
  else if c = 'f' then some 12
  else if c = 'n' then some 10
  else if c = 'r' then some 13
  else if c = 't' then some 9
  else none

/-- The codes of a string body up to the closing quote, and what follows the quote. None for a raw
control character, an unknown escape or a missing quote. -/
def stringCodes : List Char → Option (List Nat × List Char)
  | [] => none
  | '"' :: rest => some ([], rest)
  | '\\' :: 'u' :: a :: b :: c :: d :: rest => do
    let code ← hexCode? a b c d
    let (codes, rest) ← stringCodes rest
    some (code :: codes, rest)
  | '\\' :: e :: rest => do
    let code ← shortEscape? e
    let (codes, rest) ← stringCodes rest
    some (code :: codes, rest)
  | c :: rest =>
    if c.toNat < 32 ∨ c = '\\' then none
    else do
      let (codes, rest) ← stringCodes rest
      some (c.toNat :: codes, rest)

/-- The characters of a list of codes: a high and a low surrogate make one character, and none may
stand alone. -/
def charsOfCodes : List Nat → Option (List Char)
  | [] => some []
  | hi :: lo :: rest =>
    if 0xD800 ≤ hi ∧ hi < 0xDC00 ∧ 0xDC00 ≤ lo ∧ lo < 0xE000 then
      (charsOfCodes rest).map (Char.ofNat (0x10000 + (hi - 0xD800) * 0x400 + (lo - 0xDC00)) :: ·)
    else if 0xD800 ≤ hi ∧ hi < 0xE000 then none
    else (charsOfCodes (lo :: rest)).map (Char.ofNat hi :: ·)
  | [code] => if 0xD800 ≤ code ∧ code < 0xE000 then none else some [Char.ofNat code]

/-- Whether the first surrogate that stands alone is found before the end of a string: it is, unless
it is a high one and the last code. -/
def foundMidway (codes : List Nat) : Bool :=
  match codes.getLast? with
  | some code =>
    !(0xD800 ≤ code && code < 0xDC00 && (charsOfCodes codes.dropLast).isSome)
  | none => false

/-- The node of a string with these codes. -/
def stringNode (codes : List Nat) : Node :=
  match charsOfCodes codes with
  | some cs => .str (String.ofList cs)
  | none => .unfit (foundMidway codes)

/-- A string after its opening quote, and what follows it. -/
def readString (cs : List Char) : Option (Node × List Char) :=
  (stringCodes cs).map fun (codes, rest) => (stringNode codes, rest)

/-! ## Values -/

/-- A word, a string or a number. -/
def readScalar (cs : List Char) : Node × Option (List Char) :=
  let word := fun (w : String) (n : Node) =>
    match afterWord w.toList cs with
    | some rest => (n, some rest)
    | none => (Node.broken, none)
  match cs with
  | 'n' :: _ => word "null" .null
  | 't' :: _ => word "true" (.bool true)
  | 'f' :: _ => word "false" (.bool false)
  | '"' :: rest =>
    match readString rest with
    | some (n, rest) => (n, some rest)
    | none => (.broken, none)
  | _ =>
    match NumberText.read cs with
    | some (t, rest) => ((t.value?.map Node.num).getD (.unfit t.givenUpMidway), some rest)
    | none => (.broken, none)

mutual

/-- A value after blanks. `fuel` bounds the number of readers entered and is twice the length of the
text. -/
def readValue : (fuel : Nat) → List Char → Node × Option (List Char)
  | 0, _ => (.broken, none)
  | fuel + 1, cs =>
    match skipSpace cs with
    | '[' :: rest =>
      match skipSpace rest with
      | ']' :: rest => (.arr [], some rest)
      | rest =>
        let (items, rest) := readItems fuel rest
        (.arr items, rest)
    | '{' :: rest =>
      match skipSpace rest with
      | '}' :: rest => (.obj [], some rest)
      | rest =>
        let (fields, rest) := readFields fuel rest
        (.obj fields, rest)
    | rest => readScalar rest

/-- The items of an array up to its end. -/
def readItems : (fuel : Nat) → List Char → List Node × Option (List Char)
  | 0, _ => ([.broken], none)
  | fuel + 1, cs =>
    match readValue fuel cs with
    | (n, none) => ([n], none)
    | (n, some rest) =>
      match skipSpace rest with
      | ',' :: rest =>
        let (items, rest) := readItems fuel rest
        (n :: items, rest)
      | ']' :: rest => ([n], some rest)
      | _ => ([n, .broken], none)

/-- The fields of an object up to its end. -/
def readFields : (fuel : Nat) → List Char → List (Option String × Node) × Option (List Char)
  | 0, _ => ([(none, .broken)], none)
  | fuel + 1, cs =>
    match skipSpace cs with
    | '"' :: rest =>
      match readString rest with
      | none => ([(none, .broken)], none)
      | some (key, rest) =>
        let name := key.name?
        match skipSpace rest with
        | ':' :: rest =>
          match readValue fuel rest with
          | (n, none) => ([(name, n)], none)
          | (n, some rest) =>
            match skipSpace rest with
            | ',' :: rest =>
              let (fields, rest) := readFields fuel rest
              ((name, n) :: fields, rest)
            | '}' :: rest => ([(name, n)], some rest)
            | _ => ([(name, n), (none, .broken)], none)
        | _ => ([(name, .broken)], none)
    | _ => ([(none, .broken)], none)

end

/-- The content of a text. -/
def read (s : String) : Document :=
  let cs := s.toList
  match readValue (2 * cs.length + 2) cs with
  | (root, some rest) => ⟨root, !(skipSpace rest).isEmpty⟩
  | (root, none) => ⟨root, true⟩

end Tableside.Json
