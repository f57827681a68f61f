import SignOn.Calendar.Date

/-!
Points in time as records hold them: the reading of a wall clock, to the microsecond and within the years 1 to 9999,
with the distance of that clock from universal time if it is known. Instants are the same points without the clock;
a moment of unknown distance counts as universal time.
-/

namespace SignOn

/-- Microseconds since the start of the year 1 in universal time. -/
abbrev Instant := Int

/-- Microseconds of a second. -/
def Moment.second : Nat := 1000000

def Moment.minute : Nat := 60 * second

def Moment.day : Nat := 86400 * second

def Moment.span : Nat := Date.days * day

/-- The reading of a wall clock. -/
structure Moment where
  /-- microseconds since the start of the year 1 -/
  wall : Nat
  /-- microseconds that the clock is ahead of universal time -/
  offset : Option Int
  wall_lt : wall < Moment.span
  offset_lt : ∀ ahead ∈ offset, ahead.natAbs < Moment.day
  deriving DecidableEq

namespace Moment

/-- The moment of a clock reading, if the clock can show it. -/
def make? (wall : Int) (offset : Option Int) : Option Moment :=
  if h : 0 ≤ wall ∧ wall.toNat < span ∧ ∀ ahead ∈ offset, ahead.natAbs < day then
    some ⟨wall.toNat, offset, h.2.1, h.2.2⟩
  else none

/-- The reading of the clock in a date and a time of day. -/
def ofParts? (date : Date) (hour minute second micro : Nat) (offset : Option Int) : Option Moment :=
  if date.Exists ∧ 1 ≤ date.year ∧ hour < 24 ∧ minute < 60 ∧ second < 60 ∧ micro < Moment.second then
    make? ((date.dayNumber * day + ((hour * 60 + minute) * 60 + second) * Moment.second + micro : Nat)) offset
  else none

/-- The instant that a moment denotes. -/
def instant (m : Moment) : Instant :=
  m.wall - m.offset.getD 0

/-- Whether the distance from universal time is unknown. -/
def isNaive (m : Moment) : Bool :=
  m.offset.isNone

/-- The moment of an instant on a clock of universal time. -/
def ofInstant? (t : Instant) : Option Moment :=
  make? t (some 0)

def date (m : Moment) : Date :=
  Date.ofDayNumber (m.wall / day)

def secondOfDay (m : Moment) : Nat :=
  m.wall % day / second

def micro (m : Moment) : Nat :=
  m.wall % second

@[simp] theorem instant_of_naive (m : Moment) (h : m.offset = none) : m.instant = m.wall := by
  simp [instant, h]

theorem wall_of_make? {wall : Int} {offset : Option Int} {m : Moment} (h : make? wall offset = some m) :
    (m.wall : Int) = wall ∧ m.offset = offset := by
  unfold make? at h
  split at h
  · next k =>
    cases h
    exact ⟨Int.toNat_of_nonneg k.1, rfl⟩
  · cases h

/-- The clock of universal time shows the instant itself. -/
theorem instant_of_ofInstant? {t : Instant} {m : Moment} (h : ofInstant? t = some m) : m.instant = t := by
  obtain ⟨hw, ho⟩ := wall_of_make? h
  simp [instant, ho, hw]

end Moment

end SignOn
