import Tableside.Text.Blank
import Tableside.Text.Digits
import Tableside.Time.Instant

/-!
The text of instants in the form of RFC 3339, always in UTC when written.

Two spellings are written: `Instant.text` with the fewest of 0, 3, 6 or 9 fraction digits that lose
nothing, and `Instant.nanoText` with nine. Two grammars are read: the strict one of the format, with
four digits of year, and a relaxed one that allows blanks between the parts, fewer digits and years
with a sign. A leap second is written and read as second 60.
-/

namespace Tableside

/-! ## Writing -/

namespace Instant

open Text

/-- A year in four digits, or with a sign and at least four digits when that does not hold it. -/
def yearChars (y : Int) : List Char :=
  if 0 ≤ y ∧ y ≤ 9999 then fixedDigits 10 4 y.toNat
  else
    let ds := decimal y.natAbs
    (if y < 0 then '-' else '+') :: (List.replicate (4 - ds.length) '0' ++ ds)

/-- Date and time up to the whole second. -/
def wholeChars (t : Instant) : List Char :=
  let d := t.date
  let s := t.secondOfDay
  let second := s % 60 + t.nanos / 1000000000
  yearChars d.year ++ '-' :: fixedDigits 10 2 d.month ++ '-' :: fixedDigits 10 2 d.day ++
    'T' :: fixedDigits 10 2 (s / 3600) ++ ':' :: fixedDigits 10 2 (s / 60 % 60) ++
    ':' :: fixedDigits 10 2 second

/-- The part of a second in nanoseconds, a leap second counting from its own beginning. -/
def fraction (t : Instant) : Nat :=
  t.nanos % 1000000000

/-- The fraction in the fewest of 0, 3, 6 or 9 digits. -/
def shortFraction (t : Instant) : List Char :=
  let n := t.fraction
  if n = 0 then []
  else if n % 1000000 = 0 then '.' :: fixedDigits 10 3 (n / 1000000)
  else if n % 1000 = 0 then '.' :: fixedDigits 10 6 (n / 1000)
  else '.' :: fixedDigits 10 9 n

/-- The text in answers. -/
def text (t : Instant) : String :=
  String.ofList (t.wholeChars ++ t.shortFraction ++ ['Z'])

/-- The text with nine fraction digits. -/
def nanoChars (t : Instant) : List Char :=
  t.wholeChars ++ '.' :: fixedDigits 10 9 t.fraction ++ ['Z']

end Instant

/-! ## Reading -/

namespace Time

open Text

/-- What a time text spells before it is looked up in the calendar. -/
structure Spelled where
  year : Int
  month : Nat
  day : Nat
  hour : Nat
  minute : Nat
  second : Nat
  nanos : Nat
  offset : Int

/-- The instant of a spelled time: the calendar has the date, the clock has the time, and the offset
is less than a day. -/
def Spelled.instant? (s : Spelled) : Option Instant :=
  let date : Date := ⟨s.year, s.month, s.day⟩
  if date.Valid ∧ minYear ≤ s.year ∧ s.year ≤ maxYear ∧ s.hour ≤ 23 ∧ s.minute ≤ 59 ∧
      s.second ≤ 60 ∧ s.offset.natAbs < 86400 then
    let leap := s.second / 60
    let second := s.hour * 3600 + s.minute * 60 + (s.second - leap)
    Instant.mk? (date.dayNumber * daySeconds + second - s.offset) (s.nanos + leap * 1000000000)
  else none

/-- A reader takes a part off the head of a text. -/
abbrev Part (α : Type) := List Char → Option (α × List Char)

/-- The given character. -/
def mark (c : Char) : Part Unit
  | [] => none
  | d :: rest => if d = c then some ((), rest) else none

/-- Between `low` and `high` decimal digits, as many as there are. -/
def number (low high : Nat) : Part Nat := fun cs =>
  let ds := (cs.take high).takeWhile isDigit
  if low ≤ ds.length then some (digitsValue ds, cs.drop ds.length) else none

/-- The letter or blank between date and time. -/
def dateEnd : Part Unit
  | c :: rest => if c = 't' ∨ c = 'T' ∨ c = ' ' then some ((), rest) else none
  | [] => none

/-- A point and at least one digit, or nothing; digits after the ninth are dropped. -/
def fractionPart : Part Nat
  | '.' :: rest =>
    let ds := rest.takeWhile isDigit
    if ds.isEmpty then none
    else some (digitsValue (ds.take 9) * Nat.pow 10 (9 - (ds.take 9).length), rest.drop ds.length)
  | cs => some (0, cs)

/-- `Z`, or a signed offset whose hours and minutes have two digits each; `between` skips what
stands between them. -/
def offsetPart (between : Part Unit) : Part Int := fun cs =>
  match cs with
  | [] => none
  | c :: rest =>
    if c = 'Z' ∨ c = 'z' then some (0, rest)
    else if c = '+' ∨ c = '-' ∨ c = '\u2212' then do
      let (hours, rest) ← number 2 2 rest
      let (_, rest) ← between rest
      let (minutes, rest) ← number 2 2 rest
      if minutes ≤ 59 then
        let seconds : Int := hours * 3600 + minutes * 60
        some (if c = '+' then seconds else -seconds, rest)
      else none
    else none

/-- The strict grammar. -/
def strict? (cs : List Char) : Option Spelled := do
  let (year, cs) ← number 4 4 cs
  let (_, cs) ← mark '-' cs
  let (month, cs) ← number 2 2 cs
  let (_, cs) ← mark '-' cs
  let (day, cs) ← number 2 2 cs
  let (_, cs) ← dateEnd cs
  let (hour, cs) ← number 2 2 cs
  let (_, cs) ← mark ':' cs
  let (minute, cs) ← number 2 2 cs
  let (_, cs) ← mark ':' cs
  let (second, cs) ← number 2 2 cs
  let (nanos, cs) ← fractionPart cs
  let (offset, cs) ← offsetPart (mark ':') cs
  if cs.isEmpty then some ⟨year, month, day, hour, minute, second, nanos, offset⟩ else none

/-- The text without blanks at its beginning. -/
def skipBlanks (cs : List Char) : List Char :=
  cs.dropWhile isBlank

/-- A year: any number of digits after a sign, up to four without. -/
def relaxedYear : Part Int := fun cs =>
  match skipBlanks cs with
  | '-' :: rest => (number 1 rest.length rest).map fun (n, rest) => (-(n : Int), rest)
  | '+' :: rest => (number 1 rest.length rest).map fun (n, rest) => ((n : Int), rest)
  | rest => (number 1 4 rest).map fun (n, rest) => ((n : Int), rest)

/-- One or two digits after blanks. -/
def relaxedNumber : Part Nat := fun cs =>
  number 1 2 (skipBlanks cs)

/-- The given character after blanks. -/
def relaxedMark (c : Char) : Part Unit := fun cs =>
  mark c (skipBlanks cs)

/-- The name of the zone in any case, or an offset. -/
def relaxedOffset : Part Int := fun cs =>
  if (cs.take 3).map Char.toUpper = ['U', 'T', 'C'] then some (0, cs.drop 3)
  else offsetPart (fun cs => some ((), cs.dropWhile fun c => c = ':' || isBlank c)) cs

/-- The relaxed grammar. -/
def relaxed? (cs : List Char) : Option Spelled := do
  let (year, cs) ← relaxedYear cs
  let (_, cs) ← relaxedMark '-' cs
  let (month, cs) ← relaxedNumber cs
  let (_, cs) ← relaxedMark '-' cs
  let (day, cs) ← relaxedNumber cs
  let (_, cs) ← dateEnd cs
  let (hour, cs) ← relaxedNumber cs
  let (_, cs) ← relaxedMark ':' cs
  let (minute, cs) ← relaxedNumber cs
  let (_, cs) ← relaxedMark ':' cs
  let (second, cs) ← relaxedNumber cs
  let (nanos, cs) ← fractionPart cs
  let (offset, cs) ← relaxedOffset (skipBlanks cs)
  if (skipBlanks cs).isEmpty then some ⟨year, month, day, hour, minute, second, nanos, offset⟩
  else none

end Time

namespace Instant

/-- The instant that a text of the strict grammar names. -/
def ofChars? (cs : List Char) : Option Instant :=
  (Time.strict? cs).bind Time.Spelled.instant?

/-- The instant that a text of the relaxed grammar names. -/
def ofRelaxed? (s : String) : Option Instant :=
  (Time.relaxed? s.toList).bind Time.Spelled.instant?

end Instant

end Tableside
