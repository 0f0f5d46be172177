import Mathlib.Data.List.Basic
import Tableside.Proofs.Cursor

/-!
# What is read as a token

A token carries a time and an identifier, and each of them has other spellings than the one that is
written: a time may have other fraction digits, an offset, and a small letter or a blank before its
clock; an identifier may have capital letters, lack its hyphens or stand in braces. `Cursor.Spells`
says that a token carries a time and an identifier of a position, in whatever spelling; these are
the tokens that are read (`Cursor.decode_eq_some_iff`). The token that is written for a position is
the one that carries both in their `Plain` spelling (`Cursor.decode_spellings`).
-/

namespace Tableside

open Text

/-! ## Spellings of a time -/

namespace Time

variable {cs rest : List Char} {n : Nat}

/-- Digits at the front of a text spell the number that they are written for. -/
theorem digits_front {ds : List Char} (front : ds <+: cs) (digits : ∀ c ∈ ds, isDigit c = true) :
    digitsValue ds < 10 ^ ds.length ∧
      cs = fixedDigits 10 ds.length (digitsValue ds) ++ cs.drop ds.length := by
  obtain ⟨small, written⟩ := fixedDigits_digitsValue digits
  rw [written]
  exact ⟨small, (List.prefix_iff_eq_append.1 front).symm⟩

/-- A number of a fixed width is read from the digits that it is written with. -/
theorem number_eq_some {width : Nat} (read : number width width cs = some (n, rest)) :
    n < 10 ^ width ∧ cs = fixedDigits 10 width n ++ rest := by
  unfold number at read
  dsimp only at read
  split at read
  · rename_i enough
    cases read
    generalize taken : (cs.take width).takeWhile isDigit = ds at enough ⊢
    have front : ds <+: cs.take width := taken ▸ List.takeWhile_prefix _
    have length : ds.length = width :=
      Nat.le_antisymm (front.length_le.trans (List.length_take_le _ _)) enough
    have digits : ∀ c ∈ ds, isDigit c = true :=
      fun c member => List.mem_takeWhile_imp (taken ▸ member)
    have spelled := digits_front (front.trans (List.take_prefix _ _)) digits
    rw [length] at spelled ⊢
    exact spelled
  · cases read

theorem mark_eq_some {c : Char} {u : Unit} (read : mark c cs = some (u, rest)) : cs = c :: rest := by
  cases cs with
  | nil => cases read
  | cons d cs =>
    rw [mark] at read
    split at read
    · rename_i here
      cases read
      rw [here]
    · cases read

theorem dateEnd_eq_some {u : Unit} (read : dateEnd cs = some (u, rest)) :
    ∃ letter, cs = letter :: rest := by
  cases cs with
  | nil => cases read
  | cons c cs =>
    rw [dateEnd] at read
    split at read
    · cases read
      exact ⟨c, rfl⟩
    · cases read

/-- A fraction of ten characters is a point and nine digits. -/
theorem fractionPart_eq_some (read : fractionPart cs = some (n, rest))
    (length : cs.length = rest.length + 10) :
    n < 10 ^ 9 ∧ cs = '.' :: (fixedDigits 10 9 n ++ rest) := by
  unfold fractionPart at read
  split at read
  · rename_i tail
    dsimp only at read
    split at read
    · cases read
    · cases read
      generalize taken : tail.takeWhile isDigit = ds at *
      have digits : ∀ c ∈ ds, isDigit c = true :=
        fun c member => List.mem_takeWhile_imp (taken ▸ member)
      have front : ds <+: tail := taken ▸ List.takeWhile_prefix _
      have nine : ds.length = 9 := by
        have := front.length_le
        rw [List.length_cons, List.length_drop] at length
        omega
      have all : ds.take 9 = ds := List.take_of_length_le (Nat.le_of_eq nine)
      have spelled := digits_front front digits
      rw [nine] at spelled
      rw [all, nine]
      simp only [Nat.sub_self, Nat.pow_eq, Nat.pow_zero, Nat.mul_one]
      exact ⟨spelled.1, congrArg ('.' :: ·) spelled.2⟩
  · cases read
    omega

/-- What follows a fraction stands at the end. -/
theorem suffix_of_fractionPart (read : fractionPart cs = some (n, rest)) : rest <:+ cs := by
  unfold fractionPart at read
  split at read
  · dsimp only at read
    split at read
    · cases read
    · cases read
      exact (List.drop_suffix _ _).trans (List.suffix_cons _ _)
  · cases read
    exact List.suffix_refl _

/-- An offset that ends in `Z` is that letter. -/
theorem offsetPart_eq_some {offset : Int} (read : offsetPart (mark ':') cs = some (offset, []))
    (last : cs.getLast? = some 'Z') : cs = ['Z'] ∧ offset = 0 := by
  unfold offsetPart at read
  cases cs with
  | nil => cases read
  | cons c rest =>
    dsimp only at read
    split at read
    · cases read
      cases last
      exact ⟨rfl, rfl⟩
    · split at read
      · simp only [Option.bind_eq_bind, Option.bind_eq_some_iff] at read
        obtain ⟨⟨hours, afterHours⟩, hoursRead, ⟨⟨⟩, afterColon⟩, colon, ⟨minutes, afterMinutes⟩,
          minutesRead, read⟩ := read
        split at read
        · cases read
          obtain ⟨-, rfl⟩ := number_eq_some hoursRead
          cases mark_eq_some colon
          obtain ⟨-, rfl⟩ := number_eq_some minutesRead
          -- The last character is a digit of the minutes.
          have written : fixedDigits 10 2 minutes ≠ [] := by
            rw [← List.length_pos_iff, length_fixedDigits]
            decide
          have split : c :: (fixedDigits 10 2 hours ++ ':' :: (fixedDigits 10 2 minutes ++ [])) =
              (c :: (fixedDigits 10 2 hours ++ [':'])) ++ fixedDigits 10 2 minutes := by
            simp
          rw [split, List.getLast?_append_of_ne_nil _ written] at last
          have digit := isDigit_of_mem_fixedDigits (List.mem_of_getLast? last)
          exact absurd digit (by decide)
        · cases read
      · cases read

/-- The text of the parts of a time in UTC, with nine fraction digits. -/
def Spelled.chars (s : Spelled) : List Char :=
  fixedDigits 10 4 s.year.toNat ++ '-' :: (fixedDigits 10 2 s.month ++ '-' ::
    (fixedDigits 10 2 s.day ++ 'T' :: (fixedDigits 10 2 s.hour ++ ':' ::
      (fixedDigits 10 2 s.minute ++ ':' :: (fixedDigits 10 2 s.second ++ '.' ::
        (fixedDigits 10 9 s.nanos ++ ['Z']))))))

/-- A time begins with six numbers between their marks. -/
theorem parts_of_strict? {s : Spelled} (read : strict? cs = some s) :
    ∃ letter fractional zoned, (0 ≤ s.year ∧ s.year ≤ 9999) ∧
      cs = fixedDigits 10 4 s.year.toNat ++ '-' :: (fixedDigits 10 2 s.month ++ '-' ::
        (fixedDigits 10 2 s.day ++ letter :: (fixedDigits 10 2 s.hour ++ ':' ::
          (fixedDigits 10 2 s.minute ++ ':' :: (fixedDigits 10 2 s.second ++ fractional))))) ∧
      fractionPart fractional = some (s.nanos, zoned) ∧
      offsetPart (mark ':') zoned = some (s.offset, []) := by
  simp only [strict?, Option.bind_eq_bind, Option.bind_eq_some_iff] at read
  obtain ⟨⟨year, _⟩, yearRead, ⟨⟨⟩, _⟩, dash, ⟨month, _⟩, monthRead, ⟨⟨⟩, _⟩, dash', ⟨day, _⟩,
    dayRead, ⟨⟨⟩, _⟩, ended, ⟨hour, _⟩, hourRead, ⟨⟨⟩, _⟩, colon, ⟨minute, _⟩, minuteRead,
    ⟨⟨⟩, _⟩, colon', ⟨second, fractional⟩, secondRead, ⟨nanos, zoned⟩, fractionRead,
    ⟨offset, left⟩, zoneRead, read⟩ := read
  obtain ⟨years, rfl⟩ := number_eq_some yearRead
  cases mark_eq_some dash
  obtain ⟨-, rfl⟩ := number_eq_some monthRead
  cases mark_eq_some dash'
  obtain ⟨-, rfl⟩ := number_eq_some dayRead
  obtain ⟨letter, rfl⟩ := dateEnd_eq_some ended
  obtain ⟨-, rfl⟩ := number_eq_some hourRead
  cases mark_eq_some colon
  obtain ⟨-, rfl⟩ := number_eq_some minuteRead
  cases mark_eq_some colon'
  obtain ⟨-, rfl⟩ := number_eq_some secondRead
  split at read
  · rename_i nothing
    obtain rfl : left = [] := List.isEmpty_iff.1 nothing
    cases read
    exact ⟨letter, fractional, zoned, ⟨by dsimp only; omega, by dsimp only; omega⟩, rfl,
      fractionRead, zoneRead⟩
  · cases read

/-- A time of thirty characters, with `T` before its clock and `Z` at its end, is spelled as times
are written. -/
theorem strict?_eq_some {s : Spelled} (read : strict? cs = some s) (length : cs.length = 30)
    (letter : cs[10]? = some 'T') (zone : cs.getLast? = some 'Z') :
    cs = s.chars ∧ (0 ≤ s.year ∧ s.year ≤ 9999) ∧ s.nanos < 10 ^ 9 ∧ s.offset = 0 := by
  obtain ⟨c, fractional, zoned, year, rfl, fraction, offset⟩ := parts_of_strict? read
  have ends : zoned ≠ [] := by
    rintro rfl
    cases offset
  obtain ⟨front, rfl⟩ := suffix_of_fractionPart fraction
  have last : zoned.getLast? = some 'Z' := by
    rw [← zone]
    simp only [← List.append_assoc, ← List.cons_append]
    exact (List.getLast?_append_of_ne_nil _ ends).symm
  obtain ⟨rfl, utc⟩ := offsetPart_eq_some offset last
  have ten : (front ++ ['Z']).length = ['Z'].length + 10 := by
    simp at length ⊢
    omega
  obtain ⟨small, spelled⟩ := fractionPart_eq_some fraction ten
  obtain rfl : c = 'T' := by
    simpa [List.getElem?_append] using letter
  rw [spelled]
  exact ⟨rfl, year, small, utc⟩

end Time

namespace Instant

open Time

variable {t : Instant}

theorem nanoChars_eq_chars (year : t.FourDigitYear) : t.nanoChars = t.spelled.chars := by
  simp only [nanoChars, wholeChars, yearChars_date year, Spelled.chars, spelled, List.append_assoc,
    List.cons_append]

theorem eq_of_mk? {secs : Int} {nanos : Nat} (made : mk? secs nanos = some t) :
    t.secs = secs ∧ t.nanos = nanos := by
  unfold mk? at made
  split at made
  · cases made
    exact ⟨rfl, rfl⟩
  · cases made

/-- The instant of a time in UTC is spelled as that time is. -/
theorem spelled_of_instant? {s : Spelled} (named : s.instant? = some t) (fits : s.nanos < 10 ^ 9)
    (utc : s.offset = 0) : t.spelled = s := by
  unfold Spelled.instant? at named
  dsimp only at named
  split at named
  · rename_i allowed
    obtain ⟨valid, -, -, hour, minute, second, -⟩ := allowed
    obtain ⟨secs, nanos⟩ := eq_of_mk? named
    rw [utc] at secs
    have day : t.secs / daySeconds = (⟨s.year, s.month, s.day⟩ : Date).dayNumber := by
      unfold daySeconds at *
      omega
    have date : t.date = ⟨s.year, s.month, s.day⟩ := by
      rw [Instant.date, day, Date.ofDayNumber_dayNumber valid]
    have ofDay : t.secondOfDay = s.hour * 3600 + s.minute * 60 + (s.second - s.second / 60) := by
      unfold secondOfDay daySeconds at *
      omega
    have clock : s.second - s.second / 60 ≤ 59 := by omega
    have minutes : t.secondOfDay / 60 = s.hour * 60 + s.minute := by omega
    have seconds : t.secondOfDay % 60 = s.second - s.second / 60 := by omega
    have leap : t.nanos / 1000000000 = s.second / 60 := by omega
    obtain ⟨y, m, d, h, mi, sec, n, off⟩ := s
    simp only [spelled, year, date, minutes, seconds, leap, fraction, Spelled.mk.injEq]
    dsimp only at *
    exact ⟨trivial, trivial, trivial, by omega, by omega, by omega, by omega, utc.symm⟩
  · cases named

/-- A time of thirty characters, with `T` before its clock and `Z` at its end, is the text of the
instant that it names. -/
theorem eq_nanoChars {time : List Char} (named : ofChars? time = some t) (length : time.length = 30)
    (letter : time[10]? = some 'T') (zone : time.getLast? = some 'Z') : time = t.nanoChars := by
  obtain ⟨s, read, named⟩ := Option.bind_eq_some_iff.1 named
  obtain ⟨spelled, year, fits, utc⟩ := strict?_eq_some read length letter zone
  obtain rfl := spelled_of_instant? named fits utc
  rw [nanoChars_eq_chars year, ← spelled]

/-- The text of a time of the four-digit years has thirty characters, with `T` before its clock and
`Z` at its end. -/
theorem form_nanoChars (year : t.FourDigitYear) : t.nanoChars.length = 30 ∧
    t.nanoChars[10]? = some 'T' ∧ t.nanoChars.getLast? = some 'Z' := by
  rw [nanoChars_eq_chars year, Spelled.chars]
  refine ⟨?_, ?_, ?_⟩
  · simp
  · simp
  · simp [List.getLast?_append, List.getLast?_cons]

end Instant

/-! ## Spellings of an identifier -/

namespace Uuid

variable {cs : List Char} {u : Uuid}

theorem small_digit : ∀ d < 16, (Nat.digitChar d).isUpper = false := by decide

/-- The canonical text of an identifier is made of its digits and of hyphens. -/
theorem mem_toChars {c : Char} (member : c ∈ u.toChars) : c = '-' ∨ c ∈ u.digits := by
  simp only [toChars, hyphenated, List.mem_append, List.mem_cons] at member
  rcases member with (((member | rfl | member) | rfl | member) | rfl | member) | rfl | member
  · exact .inr (List.mem_of_mem_take member)
  · exact .inl rfl
  · exact .inr (List.mem_of_mem_drop (List.mem_of_mem_take member))
  · exact .inl rfl
  · exact .inr (List.mem_of_mem_drop (List.mem_of_mem_take member))
  · exact .inl rfl
  · exact .inr (List.mem_of_mem_drop (List.mem_of_mem_take member))
  · exact .inl rfl
  · exact .inr (List.mem_of_mem_drop member)

/-- The canonical text of an identifier has thirty-six characters and no capital letters. -/
theorem form_toChars (u : Uuid) :
    u.toChars.length = 36 ∧ ∀ c ∈ u.toChars, c.isUpper = false := by
  refine ⟨u.length_toChars, fun c member => ?_⟩
  rcases mem_toChars member with rfl | digit
  · rfl
  · obtain ⟨d, small, rfl⟩ := exists_of_mem_fixedDigits (by decide) digit
    exact small_digit d small

/-- Digits without capital letters are those of the identifier that they name. -/
theorem eq_digits {ds : List Char} (named : ofDigits? ds = some u)
    (small : ∀ c ∈ ds, c.isUpper = false) : ds = u.digits := by
  unfold ofDigits? at named
  split at named
  · rename_i length
    obtain ⟨n, read, rfl⟩ := Option.map_eq_some_iff.1 named
    obtain ⟨fits, written⟩ := fixedDigits_hex? read small
    rw [length] at fits written
    have whole : (ofNat n).toNat = n := Nat.mod_eq_of_lt fits
    rw [digits, whole, written]
  · cases named

/-- A text of thirty-six characters without capital letters is the canonical text of the identifier
that it names. -/
theorem eq_toChars (named : ofChars? cs = some u) (length : cs.length = 36)
    (small : ∀ c ∈ cs, c.isUpper = false) : cs = u.toChars := by
  rw [ofChars?, if_neg (by omega), if_pos length, ofHyphenated?] at named
  split at named
  · rename_i grouped
    rw [grouped, toChars, ← eq_digits named fun c member => small c ?_]
    simp only [List.mem_append] at member
    rcases member with (((member | member) | member) | member) | member
    · exact List.mem_of_mem_take member
    · exact List.mem_of_mem_drop (List.mem_of_mem_take member)
    · exact List.mem_of_mem_drop (List.mem_of_mem_take member)
    · exact List.mem_of_mem_drop (List.mem_of_mem_take member)
    · exact List.mem_of_mem_drop member
  · cases named

end Uuid

/-! ## Tokens -/

namespace Cursor

/-- A token carries a time and an identifier that name a position. -/
structure Spells (token : String) (c : Cursor) (time id : List Char) : Prop where
  token : trimChars token.toList =
    Base64Url.encode (utf8 (String.ofList (time ++ separator :: id)))
  bar : separator ∉ time
  createdAt : Instant.ofChars? time = some c.createdAt
  id : Uuid.ofChars? id = some c.id

/-- A time and an identifier in the spelling that is written: the time has thirty characters, with
`T` before its clock and `Z` at its end, the identifier has thirty-six and no capital letters. -/
structure Plain (time id : List Char) : Prop where
  timeLength : time.length = 30
  letter : time[10]? = some 'T'
  zone : time.getLast? = some 'Z'
  idLength : id.length = 36
  small : ∀ x ∈ id, x.isUpper = false

variable {token : String} {c : Cursor} {time id : List Char}

/-- The tokens that are read are those that carry a time and an identifier. -/
theorem decode_eq_some_iff : decode token = some c ↔ ∃ time id, Spells token c time id := by
  constructor
  · intro read
    simp only [decode, ofKey?, Option.bind_eq_bind, Option.bind_eq_some_iff] at read
    obtain ⟨bytes, bytesRead, key, keyRead, ⟨time, id⟩, cut, t, timeRead, u, idRead, same⟩ := read
    cases same
    obtain ⟨split, bar⟩ := splitOnce_eq_some cut
    refine ⟨time, id, ?_, bar, timeRead, idRead⟩
    rw [← split, String.ofList_toList, utf8_of_ofUtf8? keyRead,
      Base64Url.encode_of_decode bytesRead]
  · rintro ⟨time, id, spells⟩
    rw [decode, spells.token, Base64Url.decode_encode]
    simp [ofKey?, String.toList_ofList, splitOnce_append spells.bar, spells.createdAt, spells.id]

/-- The token of a position carries its time and its identifier as they are written. -/
theorem spells_encode (year : c.createdAt.FourDigitYear) :
    Spells c.encode c c.createdAt.nanoChars c.id.toChars where
  token := by rw [trimChars_encode, encode_toList, keyChars]
  bar := separator_not_mem_nanoChars year
  createdAt := Instant.ofChars?_nanoChars year
  id := Uuid.ofChars?_toChars c.id

theorem plain_written (year : c.createdAt.FourDigitYear) :
    Plain c.createdAt.nanoChars c.id.toChars := by
  obtain ⟨length, letter, zone⟩ := Instant.form_nanoChars year
  obtain ⟨length', small⟩ := Uuid.form_toChars c.id
  exact ⟨length, letter, zone, length', small⟩

/-- A token carries one time and one identifier. -/
theorem Spells.unique {token' : String} {time' id' : List Char} {c' : Cursor}
    (spells : Spells token c time id) (spells' : Spells token' c' time' id')
    (same : trimChars token.toList = trimChars token'.toList) : time = time' ∧ id = id' := by
  have bytes := congrArg Base64Url.decode (spells.token.symm.trans (same.trans spells'.token))
  rw [Base64Url.decode_encode, Base64Url.decode_encode, Option.some.injEq] at bytes
  have texts := congrArg ofUtf8? bytes
  rw [ofUtf8?_utf8, ofUtf8?_utf8, Option.some.injEq] at texts
  have keys := congrArg (splitOnce separator) (String.ofList_injective texts)
  rw [splitOnce_append spells.bar, splitOnce_append spells'.bar, Option.some.injEq,
    Prod.mk.injEq] at keys
  exact keys

/-- The token of a position is read as it is trimmed. -/
theorem trim_eq_encode_iff :
    Text.trim token = c.encode ↔ trimChars token.toList = trimChars c.encode.toList := by
  rw [trimChars_encode, Text.trim]
  constructor
  · intro same
    rw [← same, String.toList_ofList]
  · intro same
    rw [same, String.ofList_toList]

theorem decode_congr {token' : String}
    (same : trimChars token.toList = trimChars token'.toList) : decode token = decode token' := by
  rw [decode, decode, same]

theorem plain_of_trim_eq (spells : Spells token c time id) (same : Text.trim token = c.encode) :
    Plain time id := by
  have same := trim_eq_encode_iff.1 same
  have year : c.createdAt.FourDigitYear := by
    by_contra other
    have read : decode token = some c := decode_eq_some_iff.2 ⟨time, id, spells⟩
    rw [decode_congr same, decode_encode_of_not_year other] at read
    cases read
  obtain ⟨timeSame, idSame⟩ := spells.unique (spells_encode year) same
  rw [timeSame, idSame]
  exact plain_written year

theorem trim_eq_of_plain (spells : Spells token c time id) (plain : Plain time id) :
    Text.trim token = c.encode := by
  rw [trim_eq_encode_iff, trimChars_encode, encode_toList, spells.token, keyChars,
    Instant.eq_nanoChars spells.createdAt plain.timeLength plain.letter plain.zone,
    Uuid.eq_toChars spells.id plain.idLength plain.small]

/-- A token is read just when it carries a time and an identifier of a position, in any spelling
that the readers take. It is the one that is written for the position, up to blanks around it, just
when both are in the spelling that is written. -/
theorem decode_spellings (token : String) :
    (∀ c, decode token = some c ↔ ∃ time id, Spells token c time id) ∧
    ∀ c time id, Spells token c time id → (Text.trim token = c.encode ↔ Plain time id) :=
  ⟨fun _ => decode_eq_some_iff, fun _ _ _ spells =>
    ⟨plain_of_trim_eq spells, trim_eq_of_plain spells⟩⟩

/-- A token whose time is written without a fraction. -/
def roundToken : String :=
  "MjAyNC0wMS0wMVQwMDowMDowMFp8MDAwMDAwMDAtMDAwMC0wMDAwLTAwMDAtMDAwMDAwMDAwMDAw"

/-- The position that it names. -/
def newYear : Cursor :=
  ⟨⟨1704067200, 0, by decide, .inl (by decide)⟩, .ofNat 0⟩

/-- The token is read, but no position has it: that of the position that it names is another one,
which is read as well. -/
theorem round_token_unwritten :
    decode roundToken = some newYear ∧ (∀ c : Cursor, Text.trim roundToken ≠ c.encode) ∧
      decode newYear.encode = some newYear := by
  have read : decode roundToken = some newYear := by decide +kernel
  have differs : Text.trim roundToken ≠ newYear.encode := by decide +kernel
  refine ⟨read, fun c same => ?_, decode_encode_of_year (by decide +kernel)⟩
  have alike := (decode_congr (trim_eq_encode_iff.1 same)).symm.trans read
  by_cases year : c.createdAt.FourDigitYear
  · rw [decode_encode_of_year year, Option.some.injEq] at alike
    exact differs (alike ▸ same)
  · rw [decode_encode_of_not_year year] at alike
    cases alike

end Cursor

end Tableside
