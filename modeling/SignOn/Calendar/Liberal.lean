import SignOn.Calendar.Iso
import SignOn.Json.Basic

/-!
Moments as clients may write them: date and time in several spellings, a bare date for its midnight, or a count of
seconds since 1970 in universal time, which above twenty thousand million is taken for milliseconds.
-/

namespace SignOn.Moment

/-- Why a value is no moment. -/
inductive Refusal where
  /-- neither text nor number -/
  | otherKind
  /-- a text that holds halves of pairs -/
  | torn
  /-- a text in no known spelling -/
  | unreadable
  /-- a time outside the years 1 to 9999 -/
  | outOfRange
  deriving DecidableEq

/-- Seconds from the start of the year 1 to the start of 1970. -/
def epoch : Int := (Date.mk 1970 1 1).dayNumber * 86400

/-- The greatest count of seconds that is not taken for milliseconds. -/
def watershed : Nat := 20000000000

/-- The wall clock reading of a count of seconds since 1970, or of milliseconds where it is large, and some
microseconds more. -/
def ofCount (count : Int) (micros : Nat) : Int :=
  if count.natAbs ≤ watershed then (epoch + count) * second + micros
  else epoch * second + count * 1000 + micros

def ofCount? (count : Int) (micros : Nat) : Option Moment :=
  make? (ofCount count micros) (some 0)

/-- The offset that some characters are: `Z` in either case, or a sign, hours and minutes with or without a colon. The
outer option tells whether they are one. -/
def looseOffset? : List Char → Option (Option Int)
  | [] => some none
  | ['Z'] | ['z'] => some (some 0)
  | sign :: cs => do
    let (hour, cs) ← takeDigits? 2 cs
    let (minutes, cs) ← takeDigits? 2 (match cs with | ':' :: rest => rest | _ => cs)
    let ahead : Int := ((hour * 60 + minutes) * minute : Nat)
    if !cs.isEmpty || 60 ≤ minutes || 24 ≤ hour then none
    else if sign = '+' then some (some ahead)
    else if sign = '-' ∨ sign = '\u2212' then some (some (-ahead))
    else none

def isSeparator (c : Char) : Bool :=
  c == 'T' || c == 't' || c == ' ' || c == '_'

/-- The moment of a date that exists and a time of day; only the year 0 has none. -/
def place (date : Date) (clock : Clock) (offset : Option Int) : Except Refusal Moment :=
  match ofParts? date clock.hour clock.minute clock.second clock.micro offset with
  | some m => .ok m
  | none => .error .outOfRange

/-- The date and time that a text spells. -/
def spelled? (cs : List Char) : Option (Except Refusal Moment) := do
  let (date, cs) ← takeDate? cs
  let separator :: cs := cs | none
  let (clock, cs) ← takeClock? cs
  let offset ← looseOffset? cs
  if isSeparator separator ∧ date.Exists ∧ clock.hour < 24 ∧ clock.minute < 60 ∧ clock.second < 60 then
    some (place date clock offset)
  else none

/-- The midnight of the date that a text is. -/
def midnight? (cs : List Char) : Option (Except Refusal Moment) := do
  let (date, cs) ← takeDate? cs
  if cs.isEmpty ∧ date.Exists then some (place date ⟨0, 0, 0, 0⟩ none) else none

/-- A count in decimal digits with an optional sign and point: its whole part and the microseconds above it. -/
def count? (cs : List Char) : Option (Int × Nat) := do
  let (negative, cs) :=
    match cs with
    | '-' :: rest => (true, rest)
    | '+' :: rest => (false, rest)
    | _ => (false, cs)
  let (whole, rest) := Digits.span cs
  let fraction ←
    match rest with
    | [] => some []
    | '.' :: rest => if rest.all Char.isDigit then some rest else none
    | _ => none
  if whole.isEmpty then none
  else
    let n : Int := Digits.number whole
    let scaled := Digits.number fraction * second
    let unit := Nat.pow 10 fraction.length
    let micros := (2 * scaled + unit) / (2 * unit)
    if !negative then some (n, micros)
    else if micros = 0 then some (-n, 0)
    else some (-n - 1, second - micros)

/-- How far below the year 1 a count may reach and still fall into the year 0. -/
def yearZero : Int := 366 * day

/-- The moment of a count in digits. -/
def counted (count : Int × Nat) : Except Refusal Moment :=
  match ofCount? count.1 count.2 with
  | some m => .ok m
  | none =>
    let wall := ofCount count.1 count.2
    if -yearZero ≤ wall ∧ wall < 0 then .error .outOfRange else .error .unreadable

def ofText (s : String) : Except Refusal Moment :=
  let cs := s.toList
  match spelled? cs with
  | some result => result
  | none =>
    match count? cs with
    | some count => counted count
    | none => (midnight? cs).getD (.error .unreadable)

/-- The microseconds of a fraction of a second, itself rounded to a floating-point number first. -/
def roundedMicros (num den : Nat) : Nat :=
  match Binary64.ofFraction false (num * second) den with
  | .finite _ rank =>
    let (n, d) := Binary64.fraction rank
    (2 * n + d) / (2 * d)
  | _ => 0

/-- The moment that a floating-point count means: the whole number below it, and its fraction forwards from there
whatever its sign. -/
def ofReal (x : Binary64) : Except Refusal Moment :=
  match x with
  | .finite negative rank =>
    let (n, d) := Binary64.fraction rank
    let whole : Int := if negative then -((n + d - 1) / d : Nat) else (n / d : Nat)
    (ofCount? whole (roundedMicros (n % d) d)).elim (.error .outOfRange) .ok
  | _ => .error .outOfRange

def ofJson : Json → Except Refusal Moment
  | .str (.whole s) => ofText s
  | .str (.torn ..) => .error .torn
  | .int i =>
    if (Binary64.ofInt i).isFinite then (ofCount? i 0).elim (.error .outOfRange) .ok
    else .error .otherKind
  | .real x => ofReal x
  | _ => .error .otherKind

end SignOn.Moment
