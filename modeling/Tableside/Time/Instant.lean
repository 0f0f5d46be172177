import Tableside.Time.Calendar

/-!
Instants: seconds from 1970-01-01T00:00:00Z and nanoseconds within the second.

A leap second is the last second of a minute going on: its nanoseconds are 10^9 or more. Instants
are ordered by seconds and then nanoseconds, which is the order of time.
-/

namespace Tableside

namespace Time

/-- Nanoseconds that a second may have: below 10^9, or below twice that in the last second of a
minute. -/
def NanosFit (secs : Int) (nanos : Nat) : Prop :=
  nanos < 1000000000 ∨ (secs % 60 = 59 ∧ nanos < 2000000000)

instance (secs : Int) (nanos : Nat) : Decidable (NanosFit secs nanos) := by
  unfold NanosFit; infer_instance

/-- The years that instants lie in. -/
def minYear : Int := -262143
def maxYear : Int := 262142

/-- Seconds of a day. -/
def daySeconds : Int := 86400

/-- The first second of the first year and the last second of the last. -/
def minSecs : Int := (Date.mk minYear 1 1).dayNumber * daySeconds
def maxSecs : Int := (Date.mk (maxYear + 1) 1 1).dayNumber * daySeconds - 1

end Time

/-- A point of time with nanosecond precision. -/
structure Instant where
  secs : Int
  nanos : Nat
  inRange : Time.minSecs ≤ secs ∧ secs ≤ Time.maxSecs
  nanosFit : Time.NanosFit secs nanos

namespace Instant

open Time

/-- The instant of a count of seconds and nanoseconds, when there is one. -/
def mk? (secs : Int) (nanos : Nat) : Option Instant :=
  if h : (minSecs ≤ secs ∧ secs ≤ maxSecs) ∧ NanosFit secs nanos then
    some ⟨secs, nanos, h.1, h.2⟩
  else none

/-- Seconds, then nanoseconds: the key by which instants are told apart and ordered. -/
def key (t : Instant) : Int × Nat :=
  (t.secs, t.nanos)

theorem key_injective {a b : Instant} (h : a.key = b.key) : a = b := by
  cases a; cases b
  simp only [key, Prod.mk.injEq] at h
  obtain ⟨rfl, rfl⟩ := h
  rfl

instance : DecidableEq Instant := fun a b =>
  if h : a.key = b.key then isTrue (key_injective h) else isFalse fun e => h (congrArg key e)

instance : LT Instant := ⟨fun a b => a.secs < b.secs ∨ (a.secs = b.secs ∧ a.nanos < b.nanos)⟩
instance (a b : Instant) : Decidable (a < b) :=
  inferInstanceAs (Decidable (a.secs < b.secs ∨ (a.secs = b.secs ∧ a.nanos < b.nanos)))

/-- The date in UTC. -/
def date (t : Instant) : Date :=
  Date.ofDayNumber (t.secs / daySeconds)

/-- The seconds since midnight in UTC. -/
def secondOfDay (t : Instant) : Nat :=
  (t.secs % daySeconds).toNat

/-- The year in UTC. -/
def year (t : Instant) : Int :=
  t.date.year

/-- The beginning of 1970. -/
instance : Inhabited Instant := ⟨⟨0, 0, by decide, Or.inl (by decide)⟩⟩

end Instant

end Tableside
