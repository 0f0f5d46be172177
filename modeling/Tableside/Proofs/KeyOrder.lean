import Tableside.Proofs.Listing
import Tableside.Proofs.TextOrder
import Tableside.Proofs.Token

/-!
# Keys sort as listings do

The key of a position writes every number in a width of its own, the year first and the identifier
last, with the same marks between them. So two keys differ first where the greatest part of the
positions differs that does: `Time.Spelled.chars_lt_iff` says so for times, `Uuid.toChars_lt_iff`
for identifiers. The calendar and the clock go up with time (`Instant.fields_lt_iff`), leap seconds
included, which are written as second 60. Hence the bytes of keys sort as the listing does
(`Cursor.key_order`).
-/

namespace Tableside

open Text

/-! ## Identifiers -/

namespace Uuid

variable {a b : Uuid}

/-- The sixteen bytes, the highest first. -/
def bytes (u : Uuid) : List UInt8 :=
  (fixedValues 256 16 u.toNat).map UInt8.ofNat

theorem toNat_lt (u : Uuid) : u.toNat < 2 ^ 128 := u.bits.isLt

theorem bytes_lt_iff : a.bytes < b.bytes ↔ a < b := by
  have byte : ∀ d < 256, (UInt8.ofNat d).toNat = d := fun d small => UInt8.toNat_ofNat_of_lt small
  have digits : ∀ u : Uuid, ∀ d ∈ fixedValues 256 16 u.toNat, d < 256 :=
    fun u d => lt_of_mem_fixedValues (by decide)
  rw [bytes, bytes, map_lt_map_iff (p := (· < 256)) (fun c d hc hd => ?_) (fun c d hc hd => ?_)
    (digits a) (digits b)]
  · exact fixedValues_lt_iff a.toNat_lt b.toNat_lt
  · rw [UInt8.lt_iff_toNat_lt, byte c hc, byte d hd]
  · rw [← UInt8.toNat_inj, byte c hc, byte d hd]

theorem bytes_inj : a.bytes = b.bytes ↔ a = b :=
  ⟨fun same => toNat_injective (eq_of_lt_iff bytes_lt_iff bytes_lt_iff same), fun same => by rw [same]⟩

theorem digits_lt_iff : a.digits < b.digits ↔ a < b :=
  fixedDigits_lt_iff (by decide) (by decide) a.toNat_lt b.toNat_lt

/-- Hyphens at the same places do not matter for the order. -/
theorem hyphenated_lt_iff {ds es : List Char} (left : ds.length = 32) (right : es.length = 32) :
    hyphenated ds < hyphenated es ↔ ds < es := by
  obtain ⟨a, b, c, d, e, la, lb, lc, ld, split, form⟩ := groups_of_length left
  obtain ⟨a', b', c', d', e', la', lb', lc', ld', split', form'⟩ := groups_of_length right
  rw [form, form', split, split']
  simp only [append_lt_append_iff (la.trans la'.symm), append_lt_append_iff (lb.trans lb'.symm),
    append_lt_append_iff (lc.trans lc'.symm), append_lt_append_iff (ld.trans ld'.symm),
    List.cons_lt_cons_self]

/-- The texts of identifiers sort as the identifiers do. -/
theorem toChars_lt_iff : a.toChars < b.toChars ↔ a < b :=
  (hyphenated_lt_iff a.length_digits b.length_digits).trans digits_lt_iff

theorem plain_toChars (u : Uuid) : ∀ c ∈ u.toChars, c.toNat < 128 := by
  intro c member
  rcases mem_toChars member with rfl | digit
  · decide
  · exact plain_of_mem_fixedDigits (by decide) (by decide) digit

end Uuid

/-! ## Times -/

namespace Time

/-- The numbers of the date in the order in which they are written. -/
def Spelled.dateFields (s : Spelled) : List Nat :=
  [s.year.toNat, s.month, s.day]

/-- The numbers of the time of day in the order in which they are written. -/
def Spelled.clockFields (s : Spelled) : List Nat :=
  [s.hour, s.minute, s.second, s.nanos]

/-- The numbers of a time in the order in which they are written. -/
def Spelled.fields (s : Spelled) : List Nat :=
  s.dateFields ++ s.clockFields

/-- Numbers of one width before the same mark decide, and what follows the mark if they are the
same. -/
theorem field_lt_iff {width m n : Nat} (left : m < 10 ^ width) (right : n < 10 ^ width) (mark : Char)
    {xs ys : List Char} :
    fixedDigits 10 width m ++ mark :: xs < fixedDigits 10 width n ++ mark :: ys ↔
      m < n ∨ (m = n ∧ xs < ys) := by
  rw [append_lt_append_iff (by rw [length_fixedDigits, length_fixedDigits]),
    fixedDigits_lt_iff (by decide) (by decide) left right,
    fixedDigits_inj (by decide) (by decide) left right, List.cons_lt_cons_self]

/-- The texts of times sort as their numbers do. -/
theorem Spelled.chars_lt_iff {s s' : Spelled} (left : s.Fits) (right : s'.Fits) :
    s.chars < s'.chars ↔ s.fields < s'.fields := by
  have year : s.year.toNat < 10 ^ 4 := by
    have := left.year
    omega
  have year' : s'.year.toNat < 10 ^ 4 := by
    have := right.year
    omega
  rw [chars, chars, field_lt_iff year year', field_lt_iff left.month right.month,
    field_lt_iff left.day right.day, field_lt_iff left.hour right.hour,
    field_lt_iff left.minute right.minute, field_lt_iff left.second right.second,
    field_lt_iff left.nanos right.nanos]
  simp only [fields, dateFields, clockFields, List.cons_append, List.nil_append,
    List.cons_lt_cons_iff, List.not_lt_nil]

namespace Date

variable {a b : Date}

/-- Of two dates one comes before the other, or they are the same. -/
theorem before_trichotomy (a b : Date) : a.Before b ∨ a = b ∨ b.Before a := by
  obtain ⟨year, month, day⟩ := a
  obtain ⟨year', month', day'⟩ := b
  unfold Before
  simp only [Date.mk.injEq]
  omega

theorem dayNumber_lt_iff (validA : a.Valid) (validB : b.Valid) :
    a.dayNumber < b.dayNumber ↔ a.Before b := by
  refine ⟨fun less => ?_, dayNumber_lt validA validB⟩
  rcases before_trichotomy a b with before | rfl | after
  · exact before
  · exact absurd less (Int.lt_irrefl _)
  · exact absurd (dayNumber_lt validB validA after) (Int.lt_asymm less)

end Date

end Time

namespace Instant

open Time

variable {a b : Instant}

theorem secs_eq (t : Instant) : t.secs = t.date.dayNumber * 86400 + t.secondOfDay := by
  rw [dayNumber_date]
  unfold secondOfDay daySeconds
  omega

theorem date_inj : a.date = b.date ↔ a.date.dayNumber = b.date.dayNumber := by
  refine ⟨fun same => by rw [same], fun same => ?_⟩
  rw [← Date.ofDayNumber_dayNumber a.date_valid, same, Date.ofDayNumber_dayNumber b.date_valid]

/-- The later instant has the later date, or the same date and the later time of day. -/
theorem lt_iff_date : a < b ↔ a.date.Before b.date ∨ (a.date = b.date ∧
    (a.secondOfDay < b.secondOfDay ∨ (a.secondOfDay = b.secondOfDay ∧ a.nanos < b.nanos))) := by
  have inDay := a.secondOfDay_lt
  have inDay' := b.secondOfDay_lt
  rw [lt_iff, a.secs_eq, b.secs_eq, date_inj, ← Date.dayNumber_lt_iff a.date_valid b.date_valid]
  omega

/-- A leap second is the end of its minute: what follows it is in the next one, and what comes
before has a smaller second. -/
theorem clockFields_lt_iff : a.spelled.clockFields < b.spelled.clockFields ↔
    a.secondOfDay < b.secondOfDay ∨ (a.secondOfDay = b.secondOfDay ∧ a.nanos < b.nanos) := by
  have clock := a.second_cases
  have clock' := b.second_cases
  have inDay := a.secondOfDay_lt
  have inDay' := b.secondOfDay_lt
  simp only [Spelled.clockFields, spelled, fraction, List.cons_lt_cons_iff, List.not_lt_nil,
    and_false, or_false]
  omega

theorem dateFields_lt_iff (yearA : a.FourDigitYear) (yearB : b.FourDigitYear) :
    a.spelled.dateFields < b.spelled.dateFields ↔ a.date.Before b.date := by
  obtain ⟨low, -⟩ := yearA
  obtain ⟨low', -⟩ := yearB
  simp only [Spelled.dateFields, spelled, List.cons_lt_cons_iff, List.not_lt_nil, and_false,
    or_false, Date.Before]
  unfold year at *
  omega

theorem dateFields_inj (yearA : a.FourDigitYear) (yearB : b.FourDigitYear) :
    a.spelled.dateFields = b.spelled.dateFields ↔ a.date = b.date := by
  obtain ⟨low, -⟩ := yearA
  obtain ⟨low', -⟩ := yearB
  have dates : a.date = b.date ↔
      a.date.year = b.date.year ∧ a.date.month = b.date.month ∧ a.date.day = b.date.day := by
    rw [Date.mk.injEq]
  simp only [Spelled.dateFields, spelled, List.cons.injEq, and_true, dates]
  unfold year at *
  omega

/-- The numbers that times are written with go up with time. -/
theorem fields_lt_iff (yearA : a.FourDigitYear) (yearB : b.FourDigitYear) :
    a.spelled.fields < b.spelled.fields ↔ a < b := by
  have lengths : a.spelled.dateFields.length = b.spelled.dateFields.length := rfl
  rw [Spelled.fields, Spelled.fields, append_lt_append_iff lengths, dateFields_lt_iff yearA yearB,
    dateFields_inj yearA yearB, clockFields_lt_iff, lt_iff_date]

/-- The texts of times sort as the times do. -/
theorem nanoChars_lt_iff (yearA : a.FourDigitYear) (yearB : b.FourDigitYear) :
    a.nanoChars < b.nanoChars ↔ a < b := by
  rw [nanoChars_eq_chars yearA, nanoChars_eq_chars yearB,
    Spelled.chars_lt_iff (fits_spelled yearA) (fits_spelled yearB), fields_lt_iff yearA yearB]

theorem nanoChars_inj (yearA : a.FourDigitYear) (yearB : b.FourDigitYear) :
    a.nanoChars = b.nanoChars ↔ a = b := by
  refine ⟨fun same => ?_, fun same => by rw [same]⟩
  have read := ofChars?_nanoChars yearA
  rw [same, ofChars?_nanoChars yearB] at read
  exact (Option.some.inj read).symm

/-- Digits and marks are plain characters. -/
theorem plain_nanoChars (yearA : a.FourDigitYear) : ∀ c ∈ a.nanoChars, c.toNat < 128 := by
  have digit : ∀ width n, ∀ c ∈ fixedDigits 10 width n, c.toNat < 128 :=
    fun width n c member => plain_of_mem_fixedDigits (by decide) (by decide) member
  intro c member
  simp only [nanoChars_eq_chars yearA, Spelled.chars, List.mem_append, List.mem_cons,
    List.not_mem_nil, or_false] at member
  rcases member with h | rfl | h | rfl | h | rfl | h | rfl | h | rfl | h | rfl | h | rfl
  all_goals first | decide | exact digit _ _ c h

end Instant

/-! ## Keys -/

namespace Cursor

variable {a b : Cursor}

/-- The bytes that a token spells in base64. -/
def keyBytes (c : Cursor) : List UInt8 :=
  utf8 (String.ofList c.keyChars)

theorem encode_eq (c : Cursor) : c.encode = String.ofList (Base64Url.encode c.keyBytes) := rfl

theorem plain_keyChars (year : a.createdAt.FourDigitYear) : ∀ x ∈ a.keyChars, x.toNat < 128 := by
  intro x member
  rw [keyChars, List.mem_append, List.mem_cons] at member
  rcases member with time | rfl | id
  · exact Instant.plain_nanoChars year x time
  · decide
  · exact a.id.plain_toChars x id

/-- Keys sort as positions do. -/
theorem keyChars_lt_iff (yearA : a.createdAt.FourDigitYear) (yearB : b.createdAt.FourDigitYear) :
    a.keyChars < b.keyChars ↔ a.Earlier b := by
  have lengths : a.createdAt.nanoChars.length = b.createdAt.nanoChars.length :=
    (Instant.form_nanoChars yearA).1.trans (Instant.form_nanoChars yearB).1.symm
  rw [keyChars, keyChars, append_lt_append_iff lengths, List.cons_lt_cons_self,
    Instant.nanoChars_lt_iff yearA yearB, Instant.nanoChars_inj yearA yearB, Uuid.toChars_lt_iff,
    Earlier]

theorem keyBytes_lt_iff (yearA : a.createdAt.FourDigitYear) (yearB : b.createdAt.FourDigitYear) :
    a.keyBytes < b.keyBytes ↔ a.createdAt < b.createdAt ∨
      (a.createdAt = b.createdAt ∧ a.id.bytes < b.id.bytes) := by
  rw [keyBytes, keyBytes, utf8_lt_iff (plain_keyChars yearA) (plain_keyChars yearB),
    keyChars_lt_iff yearA yearB, Earlier, Uuid.bytes_lt_iff]

/-- A key is that of one position only. -/
theorem keyBytes_inj (yearA : a.createdAt.FourDigitYear) (yearB : b.createdAt.FourDigitYear) :
    a.keyBytes = b.keyBytes ↔ a = b := by
  refine ⟨fun same => ?_, fun same => by rw [same]⟩
  have tokens : a.encode = b.encode := by rw [encode_eq, encode_eq, same]
  have read := decode_encode_of_year yearA
  rw [tokens, decode_encode_of_year yearB] at read
  exact (Option.some.inj read).symm

/-- The bytes of keys compare as positions do, by time and then by the bytes of the identifier; and
so do the rows of a listing. -/
theorem key_order {a b : Cursor} (yearA : a.createdAt.FourDigitYear)
    (yearB : b.createdAt.FourDigitYear) :
    (a.keyBytes < b.keyBytes ↔ a.createdAt < b.createdAt ∨
      (a.createdAt = b.createdAt ∧ a.id.bytes < b.id.bytes)) ∧
    (a.keyBytes = b.keyBytes ↔ a.createdAt = b.createdAt ∧ a.id.bytes = b.id.bytes) ∧
    (b.keyBytes < a.keyBytes ↔ b.createdAt < a.createdAt ∨
      (b.createdAt = a.createdAt ∧ b.id.bytes < a.id.bytes)) ∧
    (a.keyBytes < b.keyBytes ↔ a.before b = true) := by
  refine ⟨keyBytes_lt_iff yearA yearB, ?_, keyBytes_lt_iff yearB yearA, ?_⟩
  · rw [keyBytes_inj yearA yearB, Uuid.bytes_inj]
    obtain ⟨time, id⟩ := a
    obtain ⟨time', id'⟩ := b
    rw [Cursor.mk.injEq]
  · rw [keyBytes_lt_iff yearA yearB, before_iff_earlier yearA yearB, Earlier, Uuid.bytes_lt_iff]

/-- Half a second into the leap second at the end of 2016. -/
def leaping : Cursor :=
  ⟨⟨1483228799, 1500000000, by decide, .inr (by decide)⟩, ⟨255⟩⟩

/-- The beginning of 2017. -/
def afterLeap : Cursor :=
  ⟨⟨1483228800, 0, by decide, .inl (by decide)⟩, ⟨16⟩⟩

theorem key_order_leap : leaping.createdAt.FourDigitYear ∧ afterLeap.createdAt.FourDigitYear ∧
    leaping.keyBytes < afterLeap.keyBytes ∧ leaping.before afterLeap = true := by
  have year : leaping.createdAt.FourDigitYear := by decide
  have year' : afterLeap.createdAt.FourDigitYear := by decide
  obtain ⟨less, -, -, listed⟩ := key_order year year'
  have sorted := less.2 (.inl (by decide))
  exact ⟨year, year', sorted, listed.1 sorted⟩

end Cursor

end Tableside
