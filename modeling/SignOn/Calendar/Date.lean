/-!
Calendar dates and their day numbers, counted from the first day of the year 1.
-/

namespace SignOn

structure Date where
  year : Nat
  month : Nat
  day : Nat
  deriving DecidableEq

namespace Date

def isLeap (year : Nat) : Bool :=
  year % 4 == 0 && (year % 100 != 0 || year % 400 == 0)

def monthLengths (year : Nat) : List Nat :=
  [31, if isLeap year then 29 else 28, 31, 30, 31, 30, 31, 31, 30, 31, 30, 31]

def daysInMonth (year month : Nat) : Nat :=
  (monthLengths year).getD (month - 1) 0

def daysBeforeYear (year : Nat) : Nat :=
  let past := year - 1
  past * 365 + past / 4 - past / 100 + past / 400

def daysBeforeMonth (year month : Nat) : Nat :=
  ((monthLengths year).take (month - 1)).foldl (· + ·) 0

/-- Whether a date exists in some year, the year 0 among them. -/
def Exists (d : Date) : Prop :=
  1 ≤ d.month ∧ d.month ≤ 12 ∧ 1 ≤ d.day ∧ d.day ≤ daysInMonth d.year d.month

instance (d : Date) : Decidable d.Exists := by
  unfold Exists; infer_instance

def dayNumber (d : Date) : Nat :=
  daysBeforeYear d.year + daysBeforeMonth d.year d.month + (d.day - 1)

/-- The years before the one of a day number, and how many days of its year lie before it: whole cycles of 400, of
100 and of 4 years and single years are taken off in turn. -/
def splitYears (n : Nat) : Nat × Nat :=
  let long := n / 146097
  let a := n % 146097
  let centuries := min 3 (a / 36524)
  let b := a - centuries * 36524
  let short := b / 1461
  let c := b % 1461
  let single := min 3 (c / 365)
  (400 * long + 100 * centuries + 4 * short + single, c - single * 365)

/-- The month that a day of a year falls into, counted from zero, and how many days of it lie before. -/
def locate : List Nat → Nat → Nat × Nat
  | [], day => (0, day)
  | length :: rest, day =>
    if day < length then (0, day)
    else
      let (month, day) := locate rest (day - length)
      (month + 1, day)

def ofDayNumber (n : Nat) : Date :=
  let (years, day) := splitYears n
  let (month, day) := locate (monthLengths (years + 1)) day
  ⟨years + 1, month + 1, day + 1⟩

/-- How many days the years from 1 to 9999 have. -/
def days : Nat := 3652059

example : (⟨9999, 12, 31⟩ : Date).dayNumber + 1 = days := by decide

example : ofDayNumber 0 = ⟨1, 1, 1⟩ ∧ ofDayNumber (days - 1) = ⟨9999, 12, 31⟩ := by decide

end Date

end SignOn
