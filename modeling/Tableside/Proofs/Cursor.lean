import Tableside.Cursor
import Tableside.Proofs.Calendar
import Tableside.Proofs.Text

/-!
# Cursors that read back

The key of a cursor is a time with nine fraction digits and an identifier. Each is written in fixed
widths, so that the readers take it apart where the writers put it together: `Uuid.ofChars?_toChars`
for identifiers, `Instant.ofChars?_nanoChars` for the times of the four-digit years, leap seconds
included, and from both `Cursor.decode_encode_of_year` for tokens.

Every other year is written with a sign, which the strict grammar has no place for. Such a time is
read by nothing (`Instant.ofChars?_sign`), so its token is nobody's. `Cursor.token_round_trip` says
both, and that blanks around a token do not matter.
-/

namespace Tableside

open Text

/-! ## Identifiers -/

namespace Uuid

theorem length_digits (u : Uuid) : u.digits.length = 32 := length_fixedDigits ..

theorem length_hyphenated {ds : List Char} (length : ds.length = 32) :
    (hyphenated ds).length = 36 := by
  simp [hyphenated, length]

theorem length_toChars (u : Uuid) : u.toChars.length = 36 :=
  length_hyphenated u.length_digits

theorem ofDigits?_digits (u : Uuid) : ofDigits? u.digits = some u := by
  have fits : u.toNat < 16 ^ 32 := u.bits.isLt
  rw [ofDigits?, if_pos u.length_digits, digits, hex?_fixedDigits fits, Option.map_some]
  congr 1
  apply toNat_injective
  exact Nat.mod_eq_of_lt u.bits.isLt

/-- Thirty-two digits fall into five groups, between which the hyphens stand. -/
theorem groups_of_length {ds : List Char} (length : ds.length = 32) :
    ∃ a b c d e, a.length = 8 ∧ b.length = 4 ∧ c.length = 4 ∧ d.length = 4 ∧
      ds = a ++ (b ++ (c ++ (d ++ e))) ∧
      hyphenated ds = a ++ ('-' :: (b ++ ('-' :: (c ++ ('-' :: (d ++ ('-' :: e))))))) := by
  have first := List.take_append_drop 8 ds
  have second := List.take_append_drop 4 (ds.drop 8)
  have third := List.take_append_drop 4 (ds.drop 12)
  have fourth := List.take_append_drop 4 (ds.drop 16)
  rw [List.drop_drop] at second third fourth
  refine ⟨ds.take 8, (ds.drop 8).take 4, (ds.drop 12).take 4, (ds.drop 16).take 4, ds.drop 20,
    ?_, ?_, ?_, ?_, ?_, ?_⟩
  · simp [length]
  · simp [length]
  · simp [length]
  · simp [length]
  · rw [fourth, third, second, first]
  · simp only [hyphenated, List.append_assoc, List.cons_append]

/-- The digits are found again between the hyphens. -/
theorem ofHyphenated?_hyphenated {ds : List Char} (length : ds.length = 32) :
    ofHyphenated? (hyphenated ds) = ofDigits? ds := by
  obtain ⟨a, b, c, d, e, la, lb, lc, ld, split, form⟩ := groups_of_length length
  have parts : (hyphenated ds).take 8 ++ ((hyphenated ds).drop 9).take 4 ++
      ((hyphenated ds).drop 14).take 4 ++ ((hyphenated ds).drop 19).take 4 ++
      (hyphenated ds).drop 24 = ds := by
    rw [form, split]
    simp [List.drop_append, List.drop_eq_nil_of_le, la, lb, lc, ld]
  rw [ofHyphenated?]
  simp only [parts, if_true]

/-- The canonical text of an identifier reads back. -/
theorem ofChars?_toChars (u : Uuid) : ofChars? u.toChars = some u := by
  rw [ofChars?, if_neg (by rw [length_toChars]; decide), if_pos u.length_toChars, toChars,
    ofHyphenated?_hyphenated u.length_digits, ofDigits?_digits]

@[simp] theorem ofText?_text (u : Uuid) : ofText? u.text = some u := by
  rw [ofText?, text, String.toList_ofList, ofChars?_toChars]

end Uuid

/-! ## Times -/

namespace Time

/-- A number of a fixed width is read up to its end. -/
theorem number_fixedDigits {width n : Nat} (fits : n < 10 ^ width) (rest : List Char) :
    number width width (fixedDigits 10 width n ++ rest) = some (n, rest) := by
  have digits : (fixedDigits 10 width n).takeWhile isDigit = fixedDigits 10 width n := by
    have all : (fixedDigits 10 width n ++ []).takeWhile isDigit = fixedDigits 10 width n ++ [] :=
      List.takeWhile_append_of_pos fun _ => isDigit_of_mem_fixedDigits
    simpa using all
  have taken : (fixedDigits 10 width n ++ rest).take width = fixedDigits 10 width n := by
    rw [List.take_left' (length_fixedDigits ..)]
  simp only [number, taken, digits, length_fixedDigits, Nat.le_refl, if_true,
    digitsValue_fixedDigits fits, List.drop_left' (length_fixedDigits 10 width n)]

/-- A number that needs a digit begins with one. -/
theorem number_cons_eq_none {low high : Nat} (positive : 0 < low) {c : Char}
    (other : isDigit c = false) (rest : List Char) : number low high (c :: rest) = none := by
  have digits : ((c :: rest).take high).takeWhile isDigit = [] := by
    cases high with
    | zero => rfl
    | succ high => rw [List.take_succ_cons, List.takeWhile_cons_of_neg (by simp [other])]
  rw [number, digits]
  exact if_neg (Nat.not_le_of_gt positive)

theorem mark_cons (c : Char) (rest : List Char) : mark c (c :: rest) = some ((), rest) := by
  simp [mark]

theorem dateEnd_cons (rest : List Char) : dateEnd ('T' :: rest) = some ((), rest) := by
  simp [dateEnd]

theorem offsetPart_utc (between : Part Unit) : offsetPart between ['Z'] = some (0, []) := by
  simp [offsetPart]

/-- A fraction of nine digits is read up to its end. -/
theorem fractionPart_nine {n : Nat} (fits : n < 10 ^ 9) :
    fractionPart ('.' :: (fixedDigits 10 9 n ++ ['Z'])) = some (n, ['Z']) := by
  have digits : (fixedDigits 10 9 n ++ ['Z']).takeWhile isDigit = fixedDigits 10 9 n := by
    rw [List.takeWhile_append_of_pos fun _ => isDigit_of_mem_fixedDigits]
    simp [isDigit]
  have nonempty : (fixedDigits 10 9 n).isEmpty = false := by
    rw [List.isEmpty_eq_false_iff, ← List.length_pos_iff, length_fixedDigits]
    decide
  have all : (fixedDigits 10 9 n).take 9 = fixedDigits 10 9 n :=
    List.take_of_length_le (Nat.le_of_eq (length_fixedDigits ..))
  simp only [fractionPart, digits, nonempty, all, length_fixedDigits, digitsValue_fixedDigits fits,
    List.drop_left' (length_fixedDigits 10 9 n), Bool.false_eq_true, if_false, Nat.sub_self,
    Nat.pow_eq, Nat.pow_zero, Nat.mul_one]

/-- The parts of a time fit the widths that times are written in. -/
structure Spelled.Fits (s : Spelled) : Prop where
  year : 0 ≤ s.year ∧ s.year ≤ 9999
  month : s.month < 10 ^ 2
  day : s.day < 10 ^ 2
  hour : s.hour < 10 ^ 2
  minute : s.minute < 10 ^ 2
  second : s.second < 10 ^ 2
  nanos : s.nanos < 10 ^ 9

end Time

namespace Instant

open Time

/-- Times whose year has four digits, the years that the strict grammar can spell. -/
def FourDigitYear (t : Instant) : Prop :=
  0 ≤ t.year ∧ t.year ≤ 9999

instance (t : Instant) : Decidable t.FourDigitYear := by
  unfold FourDigitYear; infer_instance

theorem yearChars_date {t : Instant} (year : t.FourDigitYear) :
    yearChars t.date.year = fixedDigits 10 4 t.year.toNat := by
  rw [yearChars, if_pos (show 0 ≤ t.date.year ∧ t.date.year ≤ 9999 from year)]
  rfl

/-- The parts that a time is written with. -/
def spelled (t : Instant) : Spelled where
  year := t.year
  month := t.date.month
  day := t.date.day
  hour := t.secondOfDay / 3600
  minute := t.secondOfDay / 60 % 60
  second := t.secondOfDay % 60 + t.nanos / 1000000000
  nanos := t.fraction
  offset := 0

theorem date_valid (t : Instant) : t.date.Valid := Date.valid_ofDayNumber _

theorem dayNumber_date (t : Instant) : t.date.dayNumber = t.secs / daySeconds :=
  Date.dayNumber_ofDayNumber _

theorem secondOfDay_lt (t : Instant) : t.secondOfDay < 86400 := by
  have := Int.emod_lt_of_pos t.secs (show (0 : Int) < 86400 by decide)
  have := Int.emod_nonneg t.secs (show (86400 : Int) ≠ 0 by decide)
  unfold secondOfDay daySeconds
  omega

/-- A second beyond the fifty-ninth is a leap second, which ends a minute. -/
theorem second_cases (t : Instant) :
    (t.nanos < 1000000000) ∨
      (1000000000 ≤ t.nanos ∧ t.nanos < 2000000000 ∧ t.secondOfDay % 60 = 59) := by
  rcases t.nanosFit with low | ⟨last, high⟩
  · exact .inl low
  · by_cases low : t.nanos < 1000000000
    · exact .inl low
    · refine .inr ⟨by omega, high, ?_⟩
      unfold secondOfDay daySeconds
      omega

/-- The parts of a time of the four-digit years fit the widths that they are written in. -/
theorem fits_spelled {t : Instant} (year : t.FourDigitYear) : t.spelled.Fits := by
  obtain ⟨low, high⟩ := year
  obtain ⟨-, month12, -, dayLast⟩ := t.date_valid
  have day31 : t.date.day ≤ 31 := by
    refine Nat.le_trans dayLast ?_
    unfold daysInMonth
    split
    · split <;> decide
    · split <;> decide
  have inDay := t.secondOfDay_lt
  have seconds := t.second_cases
  refine ⟨⟨low, high⟩, ?_, ?_, ?_, ?_, ?_, Nat.mod_lt _ (by decide)⟩
  all_goals dsimp only [spelled]; omega

/-- Reading takes apart what writing put together. -/
theorem strict?_nanoChars {t : Instant} (year : t.FourDigitYear) :
    strict? t.nanoChars = some t.spelled := by
  obtain ⟨⟨low, high⟩, month, day, hour, minute, second, fraction⟩ := fits_spelled year
  have years : (t.year.toNat : Int) = t.year := Int.toNat_of_nonneg low
  dsimp only [spelled] at *
  simp only [nanoChars, wholeChars, yearChars_date year, List.append_assoc, List.cons_append,
    strict?, number_fixedDigits (show t.year.toNat < 10 ^ 4 by omega), number_fixedDigits month,
    number_fixedDigits day, number_fixedDigits hour, number_fixedDigits minute,
    number_fixedDigits second, mark_cons, dateEnd_cons, fractionPart_nine fraction,
    offsetPart_utc, Option.bind_eq_bind, Option.bind_some, List.isEmpty_nil, if_true, years]

theorem mk?_eq_some {secs : Int} {nanos : Nat} {t : Instant} (hs : secs = t.secs)
    (hn : nanos = t.nanos) : mk? secs nanos = some t := by
  subst hs hn
  rw [mk?, dif_pos ⟨t.inRange, t.nanosFit⟩]

/-- The calendar and the clock give back the instant that was spelled. -/
theorem instant?_spelled {t : Instant} (year : t.FourDigitYear) :
    t.spelled.instant? = some t := by
  obtain ⟨low, high⟩ := year
  have inDay := t.secondOfDay_lt
  have seconds := t.second_cases
  have allowed : t.date.Valid ∧ minYear ≤ t.year ∧ t.year ≤ maxYear ∧
      t.secondOfDay / 3600 ≤ 23 ∧ t.secondOfDay / 60 % 60 ≤ 59 ∧
      t.secondOfDay % 60 + t.nanos / 1000000000 ≤ 60 ∧ (0 : Int).natAbs < 86400 := by
    refine ⟨t.date_valid, ?_, ?_, by omega, by omega, by omega, by decide⟩
    · unfold minYear
      omega
    · unfold maxYear
      omega
  have split : t.secs / daySeconds * daySeconds + (t.secondOfDay : Int) = t.secs := by
    have := Int.emod_nonneg t.secs (show (86400 : Int) ≠ 0 by decide)
    unfold secondOfDay daySeconds
    omega
  refine (if_pos allowed).trans (mk?_eq_some ?_ ?_)
  · have day : (⟨t.spelled.year, t.spelled.month, t.spelled.day⟩ : Date).dayNumber =
        t.secs / daySeconds := t.dayNumber_date
    rw [day]
    dsimp only [spelled]
    omega
  · dsimp only [spelled, fraction]
    omega

/-- The text with nine fraction digits of a time of the four-digit years reads back. -/
theorem ofChars?_nanoChars {t : Instant} (year : t.FourDigitYear) :
    ofChars? t.nanoChars = some t := by
  rw [ofChars?, strict?_nanoChars year, Option.bind_some, instant?_spelled year]

/-- Every other year is written with a sign. -/
theorem yearChars_sign {t : Instant} (year : ¬ t.FourDigitYear) :
    ∃ sign digits, (sign = '-' ∨ sign = '+') ∧ yearChars t.date.year = sign :: digits := by
  rw [yearChars, if_neg (show ¬ (0 ≤ t.date.year ∧ t.date.year ≤ 9999) from year)]
  refine ⟨_, _, ?_, rfl⟩
  split
  · exact .inl rfl
  · exact .inr rfl

theorem nanoChars_sign {t : Instant} (year : ¬ t.FourDigitYear) :
    ∃ sign rest, (sign = '-' ∨ sign = '+') ∧ t.nanoChars = sign :: rest := by
  obtain ⟨sign, digits, isSign, chars⟩ := yearChars_sign year
  simp only [nanoChars, wholeChars, chars, List.cons_append]
  exact ⟨sign, _, isSign, rfl⟩

/-- The strict grammar has no years with a sign. -/
theorem ofChars?_sign {sign : Char} (isSign : sign = '-' ∨ sign = '+') (rest : List Char) :
    ofChars? (sign :: rest) = none := by
  have other : isDigit sign = false := by
    rcases isSign with rfl | rfl
    · rfl
    · rfl
  rw [ofChars?, strict?, number_cons_eq_none (by decide) other]
  rfl

end Instant

/-! ## Tokens -/

namespace Cursor

theorem separator_not_mem_fixedDigits (width n : Nat) : separator ∉ fixedDigits 10 width n := by
  intro member
  exact absurd (isDigit_of_mem_fixedDigits member) (by decide)

/-- The bar stands in no time of the four-digit years. -/
theorem separator_not_mem_nanoChars {t : Instant} (year : t.FourDigitYear) :
    separator ∉ t.nanoChars := by
  have years := Instant.yearChars_date year
  have dash : separator ≠ '-' := by decide
  have colon : separator ≠ ':' := by decide
  have letter : separator ≠ 'T' := by decide
  have point : separator ≠ '.' := by decide
  have zone : separator ≠ 'Z' := by decide
  simp only [Instant.nanoChars, Instant.wholeChars, years, List.mem_append, List.mem_cons,
    separator_not_mem_fixedDigits, dash, colon, letter, point, zone, List.not_mem_nil, or_self,
    not_false_eq_true]

/-- The key of a position in the four-digit years reads back. -/
theorem ofKey?_keyChars {c : Cursor} (year : c.createdAt.FourDigitYear) :
    ofKey? c.keyChars = some c := by
  rw [ofKey?, keyChars, splitOnce_append (separator_not_mem_nanoChars year)]
  simp [Instant.ofChars?_nanoChars year, Uuid.ofChars?_toChars]

theorem encode_toList (c : Cursor) :
    c.encode.toList = Base64Url.encode (utf8 (String.ofList c.keyChars)) :=
  String.toList_ofList

/-- A token has no blanks, so trimming leaves it alone. -/
theorem trimChars_encode (c : Cursor) : trimChars c.encode.toList = c.encode.toList := by
  rw [encode_toList]
  exact trimChars_of_forall fun _ => Base64Url.isBlank_of_mem_encode

/-- The token of a position in the four-digit years reads back. -/
theorem decode_encode_of_year {c : Cursor} (year : c.createdAt.FourDigitYear) :
    decode c.encode = some c := by
  rw [decode, trimChars_encode, encode_toList, Base64Url.decode_encode]
  simp [String.toList_ofList, ofKey?_keyChars year]

/-- The key of a position in any other year is no key: its time begins with a sign, and so does
whatever stands before the first bar. -/
theorem ofKey?_keyChars_eq_none {c : Cursor} (year : ¬ c.createdAt.FourDigitYear) :
    ofKey? c.keyChars = none := by
  obtain ⟨sign, rest, isSign, chars⟩ := Instant.nanoChars_sign year
  have bar : sign ≠ separator := by
    rcases isSign with rfl | rfl
    · decide
    · decide
  rw [ofKey?, keyChars, chars, List.cons_append, splitOnce, if_neg bar]
  cases splitOnce separator (rest ++ separator :: c.id.toChars) with
  | none => rfl
  | some parts => simp [Instant.ofChars?_sign isSign]

/-- The token of a position in any other year is no cursor's. -/
theorem decode_encode_of_not_year {c : Cursor} (year : ¬ c.createdAt.FourDigitYear) :
    decode c.encode = none := by
  rw [decode, trimChars_encode, encode_toList, Base64Url.decode_encode]
  simp [String.toList_ofList, ofKey?_keyChars_eq_none year]

/-- Blanks around a token do not matter. -/
theorem decode_surrounded (token : String) {lead tail : String}
    (blankLead : ∀ x ∈ lead.toList, isBlank x = true)
    (blankTail : ∀ x ∈ tail.toList, isBlank x = true) :
    decode (lead ++ token ++ tail) = decode token := by
  rw [decode, decode, String.toList_append, String.toList_append,
    trimChars_surrounded _ blankLead blankTail]

/-- A cursor of the years 0 to 9999 comes back from its token exactly, with blanks around the token
or not; one of another year never does; and no token has a character outside the alphabet of URLs.
-/
theorem token_round_trip (c : Cursor) :
    (c.createdAt.FourDigitYear → ∀ lead tail : String,
      (∀ x ∈ lead.toList, isBlank x = true) → (∀ x ∈ tail.toList, isBlank x = true) →
        decode (lead ++ c.encode ++ tail) = some c) ∧
    (¬ c.createdAt.FourDigitYear → decode c.encode = none) ∧
    ∀ x ∈ c.encode.toList, x.isAlphanum = true ∨ x = '-' ∨ x = '_' := by
  refine ⟨fun year lead tail blankLead blankTail => ?_, decode_encode_of_not_year, ?_⟩
  · rw [decode_surrounded _ blankLead blankTail, decode_encode_of_year year]
  · intro x member
    rw [encode_toList] at member
    exact Base64Url.alphabet_of_mem_encode member

/-- The last instant that a token can name, a leap second going on. -/
def lastNamed : Cursor :=
  ⟨⟨253402300799, 1999999999, by decide, .inr (by decide)⟩, ⟨255⟩⟩

/-- The instant after it, the first of the year 10000. -/
def firstUnnamed : Cursor :=
  ⟨⟨253402300800, 0, by decide, .inl (by decide)⟩, ⟨255⟩⟩

theorem token_round_trip_boundary :
    decode ("\u3000" ++ lastNamed.encode ++ " ") = some lastNamed ∧
      decode firstUnnamed.encode = none := by
  have wide : "\u3000".toList.all isBlank = true := by decide
  have narrow : " ".toList.all isBlank = true := by decide
  exact ⟨(token_round_trip lastNamed).1 (by decide) "\u3000" " " (List.all_eq_true.1 wide)
    (List.all_eq_true.1 narrow), (token_round_trip firstUnnamed).2.1 (by decide)⟩

/-- No token is empty, so that none is taken for the lack of one. -/
theorem isEmpty_encode (c : Cursor) : c.encode.isEmpty = false := by
  have key : utf8 (String.ofList c.keyChars) ≠ [] := by
    intro empty
    have back := ofUtf8?_utf8 (String.ofList c.keyChars)
    have none := ofUtf8?_utf8 ""
    rw [empty] at back
    rw [show utf8 "" = [] from rfl, back, Option.some.injEq] at none
    have chars := congrArg String.toList none
    simp [keyChars, String.toList_ofList] at chars
  have chars := Base64Url.encode_ne_nil key
  rw [← encode_toList] at chars
  rw [← Bool.not_eq_true, String.isEmpty_iff]
  intro empty
  exact chars (by rw [empty]; rfl)

end Cursor

end Tableside
