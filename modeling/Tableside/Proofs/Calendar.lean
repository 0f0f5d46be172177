import Tableside.Time.Calendar

/-!
# Days and dates correspond

An era of four hundred years falls into four centuries, a century into twenty-five spans of four
years and a span into four years, of which the last is the long one; only the last span of the last
century is as long as the others. `exists_place` finds the place of a day in these cycles, and
`Date.ofDayNumber` is read off it: the date it gives is one that the calendar has
(`Date.valid_ofDayNumber`), and its day number is the day it was made from
(`Date.dayNumber_ofDayNumber`).

Later dates have larger day numbers (`Date.dayNumber_lt`), so that a date is the one of its day
number (`Date.ofDayNumber_dayNumber`).
-/

namespace Tableside.Time.Date

/-! ## The place of a day in its era -/

/-- The place of a day in an era: century, span of four years, year of the span and day of the year,
all counted from zero and beginning in March. -/
structure Place where
  century : Int
  span : Int
  year : Int
  day : Int

namespace Place

/-- The bounds of a place. A year has a 366th day only at the end of a span, and a century has that
span only when it is the last of its era. -/
structure Valid (p : Place) : Prop where
  century : 0 ≤ p.century ∧ p.century ≤ 3
  span : 0 ≤ p.span ∧ p.span ≤ 24
  year : 0 ≤ p.year ∧ p.year ≤ 3
  day : 0 ≤ p.day ∧ p.day ≤ 365
  leap : p.day = 365 → p.year = 3 ∧ (p.span = 24 → p.century = 3)

/-- The day of the era. -/
def dayOfEra (p : Place) : Int :=
  36524 * p.century + 1461 * p.span + 365 * p.year + p.day

/-- The year of the era. -/
def yearOfEra (p : Place) : Int :=
  100 * p.century + 4 * p.span + p.year

end Place

theorem exists_place {d : Int} (low : 0 ≤ d) (high : d < 146097) :
    ∃ p : Place, p.Valid ∧ p.dayOfEra = d := by
  obtain ⟨c, r, hc, hr, split⟩ : ∃ c r : Int, (0 ≤ c ∧ c ≤ 3) ∧
      (0 ≤ r ∧ r ≤ 36524 ∧ (r = 36524 → c = 3)) ∧ d = 36524 * c + r := by
    by_cases last : d = 146096
    · exact ⟨3, 36524, by omega, by omega, by omega⟩
    · exact ⟨d / 36524, d % 36524, by omega, by omega, by omega⟩
  obtain ⟨y, n, hy, hn, split'⟩ : ∃ y n : Int, (0 ≤ y ∧ y ≤ 3) ∧
      (0 ≤ n ∧ n ≤ 365 ∧ (n = 365 → y = 3)) ∧ r % 1461 = 365 * y + n := by
    by_cases last : r % 1461 = 1460
    · exact ⟨3, 365, by omega, by omega, by omega⟩
    · exact ⟨r % 1461 / 365, r % 1461 % 365, by omega, by omega, by omega⟩
  refine ⟨⟨c, r / 1461, y, n⟩, ⟨hc, ?_, hy, ?_, ?_⟩, ?_⟩
  · constructor <;> dsimp only <;> omega
  · constructor <;> dsimp only <;> omega
  · dsimp only
    omega
  · dsimp only [Place.dayOfEra]
    omega

/-- The division by which the year of an era is found counts the years of a place. -/
theorem Place.Valid.yearOfEra_eq {p : Place} (valid : p.Valid) :
    (p.dayOfEra - p.dayOfEra / 1460 + p.dayOfEra / 36524 - p.dayOfEra / 146096) / 365 =
      p.yearOfEra := by
  obtain ⟨c, q, y, n⟩ := p
  obtain ⟨hc, hq, hy, hn, leap⟩ := valid
  dsimp only [Place.dayOfEra, Place.yearOfEra] at *
  generalize hd : 36524 * c + 1461 * q + 365 * y + n = d
  have quotient : d / 1460 = 25 * c + q + (24 * c + q + 365 * y + n) / 1460 := by omega
  have within : 1461 * q + 365 * y + n < 36524 ∨ (c = 3 ∧ 1461 * q + 365 * y + n = 36524) := by
    omega
  have centuries : d / 36524 - d / 146096 = c := by
    rcases within with within | ⟨rfl, within⟩
    · have first : d / 36524 = c := by omega
      have rest : d / 146096 = 0 := by omega
      omega
    · omega
  omega

theorem Place.Valid.daysBefore {p : Place} (valid : p.Valid) :
    365 * p.yearOfEra + p.yearOfEra / 4 - p.yearOfEra / 100 = p.dayOfEra - p.day := by
  obtain ⟨c, q, y, n⟩ := p
  obtain ⟨hc, hq, hy, hn, leap⟩ := valid
  dsimp only [Place.dayOfEra, Place.yearOfEra] at *
  omega

/-! ## The date of a day -/

/-- The months from March, with the days before each and the day of the month. -/
theorem exists_month {n : Int} (low : 0 ≤ n) (high : n ≤ 365) :
    ∃ m d : Int, (5 * n + 2) / 153 = m ∧ (0 ≤ m ∧ m ≤ 11) ∧ (1 ≤ d ∧ d ≤ 31) ∧
      n = (153 * m + 2) / 5 + d - 1 :=
  ⟨(5 * n + 2) / 153, n - (153 * ((5 * n + 2) / 153) + 2) / 5 + 1, rfl, by omega, by omega,
    by omega⟩

/-- The date of a day, read off the place of the day in its era: March to December belong to the
year in which the shifted year began, January and February to the next. -/
theorem ofDayNumber_cases (n : Int) :
    ∃ (era : Int) (p : Place) (m d : Int), p.Valid ∧ n = 146097 * era + p.dayOfEra - 719468 ∧
      (5 * p.day + 2) / 153 = m ∧ (0 ≤ m ∧ m ≤ 11) ∧ (1 ≤ d ∧ d ≤ 31) ∧
      p.day = (153 * m + 2) / 5 + d - 1 ∧
      ((m < 10 ∧ ofDayNumber n = ⟨p.yearOfEra + era * 400, (m + 3).toNat, d.toNat⟩) ∨
        (10 ≤ m ∧ ofDayNumber n = ⟨p.yearOfEra + era * 400 + 1, (m - 9).toNat, d.toNat⟩)) := by
  obtain ⟨p, valid, day⟩ := exists_place (d := (n + 719468) % 146097) (by omega) (by omega)
  obtain ⟨m, d, month, hm, hd, split⟩ := exists_month valid.day.1 valid.day.2
  have rest : p.dayOfEra - (365 * p.yearOfEra + p.yearOfEra / 4 - p.yearOfEra / 100) = p.day := by
    have := valid.daysBefore
    omega
  have ofMonth : p.day - (153 * m + 2) / 5 + 1 = d := by omega
  refine ⟨(n + 719468) / 146097, p, m, d, valid, by omega, month, hm, hd, split, ?_⟩
  simp only [ofDayNumber, ← day, valid.yearOfEra_eq, rest, month, ofMonth]
  by_cases early : m < 10
  · rw [if_pos early, if_neg (by omega)]
    exact .inl ⟨early, by simp only [Int.add_zero]⟩
  · rw [if_neg early, if_pos (by omega)]
    exact .inr ⟨by omega, rfl⟩

/-- A year whose last day is the 366th is a leap year. -/
theorem isLeapYear_of_place {p : Place} (valid : p.Valid) (long : p.day = 365) (era : Int) :
    isLeapYear (p.yearOfEra + era * 400 + 1) = true := by
  obtain ⟨c, q, y, day⟩ := p
  obtain ⟨hc, hq, hy, -, leap⟩ := valid
  obtain ⟨third, final⟩ := leap long
  dsimp only [Place.yearOfEra] at *
  have four : (100 * c + 4 * q + y + era * 400 + 1) % 4 = 0 := by omega
  by_cases span : q = 24
  · have century : (100 * c + 4 * q + y + era * 400 + 1) % 400 = 0 := by
      have := final span
      omega
    simp [isLeapYear, four, century]
  · have inside : (100 * c + 4 * q + y + era * 400 + 1) % 100 ≠ 0 := by omega
    simp [isLeapYear, four, inside]

/-- Every day has a date of the calendar. -/
theorem valid_ofDayNumber (n : Int) : (ofDayNumber n).Valid := by
  obtain ⟨era, p, m, d, valid, -, month, hm, hd, place, date⟩ := ofDayNumber_cases n
  have within := valid.day
  rcases date with ⟨early, date⟩ | ⟨late, date⟩
  · have ofMonth : d.toNat ≤ daysInMonth (p.yearOfEra + era * 400) (m + 3).toNat := by
      rw [daysInMonth, if_neg (by omega)]
      split <;> omega
    rw [date]
    exact ⟨by dsimp only; omega, by dsimp only; omega, by dsimp only; omega, ofMonth⟩
  · have ofMonth : d.toNat ≤ daysInMonth (p.yearOfEra + era * 400 + 1) (m - 9).toNat := by
      by_cases february : m = 11
      · rw [daysInMonth, if_pos (by omega)]
        by_cases long : p.day = 365
        · rw [if_pos (isLeapYear_of_place valid long era)]
          omega
        · split <;> omega
      · rw [daysInMonth, if_neg (by omega), if_neg (by omega)]
        omega
    rw [date]
    exact ⟨by dsimp only; omega, by dsimp only; omega, by dsimp only; omega, ofMonth⟩

/-- A date made from a day has that day number. -/
theorem dayNumber_ofDayNumber (n : Int) : (ofDayNumber n).dayNumber = n := by
  obtain ⟨era, ⟨c, q, y, day⟩, m, d, ⟨hc, hq, hy, -, -⟩, place, -, hm, hd, split, date⟩ :=
    ofDayNumber_cases n
  dsimp only [Place.yearOfEra, Place.dayOfEra] at *
  rcases date with ⟨early, date⟩ | ⟨late, date⟩
  · have month : ((m + 3).toNat : Int) = m + 3 := Int.toNat_of_nonneg (by omega)
    have ofMonth : (d.toNat : Int) = d := Int.toNat_of_nonneg (by omega)
    rw [date]
    simp only [dayNumber, if_neg (show ¬(m + 3).toNat ≤ 2 by omega), month, ofMonth]
    omega
  · have month : ((m - 9).toNat : Int) = m - 9 := Int.toNat_of_nonneg (by omega)
    have ofMonth : (d.toNat : Int) = d := Int.toNat_of_nonneg (by omega)
    rw [date]
    simp only [dayNumber, if_pos (show (m - 9).toNat ≤ 2 by omega), month, ofMonth]
    omega

/-! ## The order of dates -/

/-- The days from the beginning of March of the year 0 to that of another year. -/
def daysToMarch (year : Int) : Int :=
  365 * year + year / 4 - year / 100 + year / 400

/-- A year, counted from March, is followed by one of 365 days, or of 366 when it ends in a leap
year. -/
theorem daysToMarch_succ (year : Int) : daysToMarch (year + 1) =
    daysToMarch year + 365 + (if isLeapYear (year + 1) then 1 else 0) := by
  have leap : isLeapYear (year + 1) = true ↔
      (year + 1) % 4 = 0 ∧ ((year + 1) % 100 ≠ 0 ∨ (year + 1) % 400 = 0) := by
    simp [isLeapYear]
  unfold daysToMarch
  split
  · rename_i long
    have := leap.1 long
    omega
  · rename_i short
    have := mt leap.2 short
    omega

theorem daysToMarch_mono {a b : Int} (h : a ≤ b) : daysToMarch a ≤ daysToMarch b := by
  unfold daysToMarch
  omega

/-- The year that a date lies in when years begin in March. -/
def shiftedYear (d : Date) : Int :=
  if d.month ≤ 2 then d.year - 1 else d.year

/-- The months since March. -/
def monthFromMarch (d : Date) : Nat :=
  if d.month ≤ 2 then d.month + 9 else d.month - 3

theorem dayNumber_eq {d : Date} (valid : d.Valid) :
    d.dayNumber = daysToMarch d.shiftedYear + ((153 * d.monthFromMarch + 2) / 5 : Nat) + d.day -
      719469 := by
  obtain ⟨y, m, day⟩ := d
  obtain ⟨low, high, -⟩ := valid
  dsimp only at low high
  unfold dayNumber daysToMarch shiftedYear monthFromMarch
  dsimp only
  split
  · omega
  · omega

/-- From March on, the months before February are as long as the years of 153 days in five months
say. -/
theorem month_days : ∀ m < 13, 3 ≤ m → (153 * (m - 3) + 2) / 5 +
    (if m = 4 ∨ m = 6 ∨ m = 9 ∨ m = 11 then 30 else 31) = (153 * (m - 3 + 1) + 2) / 5 := by
  decide

/-- The days of a month fit before the next month, and those of the year before the next March. -/
theorem day_fits {d : Date} (valid : d.Valid) : d.monthFromMarch ≤ 11 ∧
    (d.monthFromMarch < 11 →
      (153 * d.monthFromMarch + 2) / 5 + d.day ≤ (153 * (d.monthFromMarch + 1) + 2) / 5) ∧
    (153 * d.monthFromMarch + 2) / 5 + d.day ≤
      365 + (if isLeapYear (d.shiftedYear + 1) then 1 else 0) := by
  obtain ⟨y, m, day⟩ := d
  obtain ⟨low, high, -, last⟩ := valid
  dsimp only at low high last
  unfold daysInMonth at last
  unfold monthFromMarch shiftedYear
  dsimp only
  by_cases early : m ≤ 2
  · rw [if_pos early, if_pos early, Int.sub_add_cancel]
    by_cases february : m = 2
    · rw [if_pos february] at last
      subst february
      split at last
      · rename_i leap
        rw [if_pos leap]
        omega
      · rename_i short
        rw [if_neg short]
        omega
    · have january : m = 1 := by omega
      rw [if_neg february, if_neg (by omega)] at last
      subst january
      omega
  · have february : m ≠ 2 := by omega
    have days := month_days m (by omega) (by omega)
    have within : (153 * (m - 3 + 1) + 2) / 5 ≤ 306 := by omega
    rw [if_neg february] at last
    rw [if_neg early, if_neg early]
    omega

/-- One date comes before another in the calendar. -/
def Before (a b : Date) : Prop :=
  a.year < b.year ∨ (a.year = b.year ∧ (a.month < b.month ∨ (a.month = b.month ∧ a.day < b.day)))

theorem dayNumber_lt {a b : Date} (validA : a.Valid) (validB : b.Valid) (before : a.Before b) :
    a.dayNumber < b.dayNumber := by
  rw [dayNumber_eq validA, dayNumber_eq validB]
  obtain ⟨monthsA, monthA, yearA⟩ := day_fits validA
  have dayB : 1 ≤ b.day := validB.2.2.1
  have shifted : a.shiftedYear < b.shiftedYear ∨ (a.shiftedYear = b.shiftedYear ∧
      (a.monthFromMarch < b.monthFromMarch ∨
        (a.monthFromMarch = b.monthFromMarch ∧ a.day < b.day))) := by
    have := validA.1
    have := validA.2.1
    have := validB.1
    have := validB.2.1
    unfold shiftedYear monthFromMarch
    unfold Before at before
    split <;> split <;> omega
  rcases shifted with year | ⟨year, month | ⟨month, day⟩⟩
  · have next := daysToMarch_succ a.shiftedYear
    have later : daysToMarch (a.shiftedYear + 1) ≤ daysToMarch b.shiftedYear := daysToMarch_mono year
    by_cases leap : isLeapYear (a.shiftedYear + 1) = true
    · rw [if_pos leap] at next yearA
      omega
    · rw [if_neg leap] at next yearA
      omega
  · rw [year]
    have fits := monthA (by have := (day_fits validB).1; omega)
    have later : (153 * (a.monthFromMarch + 1) + 2) / 5 ≤ (153 * b.monthFromMarch + 2) / 5 := by omega
    omega
  · rw [year, month]
    omega

/-- A date of the calendar is that of its day number. -/
theorem ofDayNumber_dayNumber {d : Date} (valid : d.Valid) : ofDayNumber d.dayNumber = d := by
  have valid' : (ofDayNumber d.dayNumber).Valid := valid_ofDayNumber _
  have same : (ofDayNumber d.dayNumber).dayNumber = d.dayNumber := dayNumber_ofDayNumber _
  generalize ofDayNumber d.dayNumber = e at valid' same
  by_cases before : e.Before d
  · exact absurd same (Int.ne_of_lt (dayNumber_lt valid' valid before))
  by_cases after : d.Before e
  · exact absurd same.symm (Int.ne_of_lt (dayNumber_lt valid valid' after))
  obtain ⟨year, month, day⟩ := d
  obtain ⟨year', month', day'⟩ := e
  unfold Before at before after
  dsimp only at before after
  simp only [Date.mk.injEq]
  omega

end Tableside.Time.Date
