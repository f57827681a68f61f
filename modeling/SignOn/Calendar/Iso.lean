import SignOn.Calendar.Moment
import SignOn.Number.Digits

/-!
The written form of moments: date and time with dashes and colons, six digits of a second only where they are not zero,
and the offset behind a sign. On the wire universal time is a `Z`.
-/

namespace SignOn.Moment

def two (n : Nat) : List Char :=
  Digits.padded 2 n

def writeDate (d : Date) : List Char :=
  Digits.padded 4 d.year ++ '-' :: (two d.month ++ '-' :: two d.day)

/-- A fraction of a second, unless it is zero. -/
def writeMicro (micro : Nat) : List Char :=
  if micro = 0 then [] else '.' :: Digits.padded 6 micro

def writeTime (secondOfDay micro : Nat) : List Char :=
  two (secondOfDay / 3600) ++ ':' :: (two (secondOfDay / 60 % 60) ++ ':' :: two (secondOfDay % 60)) ++ writeMicro micro

/-- The written offset; its seconds only where it is not whole minutes. -/
def writeOffset (ahead : Int) : List Char :=
  let n := ahead.natAbs
  let seconds := n / second
  (if ahead < 0 then '-' else '+') :: (two (seconds / 3600) ++ ':' :: two (seconds / 60 % 60)) ++
    if n % minute = 0 then [] else ':' :: (two (seconds % 60) ++ writeMicro (n % second))

def writeWall (m : Moment) : List Char :=
  writeDate m.date ++ 'T' :: writeTime m.secondOfDay m.micro

def iso (m : Moment) : String :=
  String.ofList (m.writeWall ++ (m.offset.map writeOffset).getD [])

def wire (m : Moment) : String :=
  String.ofList <| m.writeWall ++
    match m.offset with
    | none => []
    | some 0 => ['Z']
    | some ahead => writeOffset ahead

/-- The number of as many digits as stand in front. -/
def takeDigits? : Nat → List Char → Option (Nat × List Char)
  | 0, cs => some (0, cs)
  | n + 1, c :: cs =>
    if c.isDigit then (takeDigits? n cs).map fun r => (Digits.value c * Nat.pow 10 n + r.1, r.2) else none
  | _ + 1, [] => none

def takeDate? (cs : List Char) : Option (Date × List Char) := do
  let (year, cs) ← takeDigits? 4 cs
  let '-' :: cs := cs | none
  let (month, cs) ← takeDigits? 2 cs
  let '-' :: cs := cs | none
  let (day, cs) ← takeDigits? 2 cs
  some (⟨year, month, day⟩, cs)

structure Clock where
  hour : Nat
  minute : Nat
  second : Nat
  micro : Nat
  deriving DecidableEq

/-- The microseconds of the digits behind a point: six count, and missing ones are zero. -/
def microOf (digits : List Char) : Nat :=
  Digits.number ((digits ++ List.replicate 6 '0').take 6)

/-- The time of day in front of some characters; seconds and their fraction may be missing. -/
def takeClock? (cs : List Char) : Option (Clock × List Char) := do
  let (hour, cs) ← takeDigits? 2 cs
  let ':' :: cs := cs | none
  let (minute, cs) ← takeDigits? 2 cs
  match cs with
  | ':' :: cs =>
    let (second, cs) ← takeDigits? 2 cs
    match cs with
    | '.' :: rest | ',' :: rest =>
      let (digits, rest) := Digits.span rest
      if digits.isEmpty then none else some (⟨hour, minute, second, microOf digits⟩, rest)
    | _ => some (⟨hour, minute, second, 0⟩, cs)
  | _ => some (⟨hour, minute, 0, 0⟩, cs)

/-- The seconds and microseconds behind the minutes of an offset. -/
def exactSeconds? : List Char → Option Nat
  | [] => some 0
  | ':' :: cs => do
    let (seconds, cs) ← takeDigits? 2 cs
    match cs with
    | [] => some (seconds * second)
    | '.' :: digits =>
      if digits.isEmpty || !digits.all Char.isDigit then none else some (seconds * second + microOf digits)
    | _ => none
  | _ => none

/-- The offset that some characters are: `Z`, or a sign, hours, minutes and perhaps seconds between colons. -/
def exactOffset? : List Char → Option (Option Int)
  | [] => some none
  | ['Z'] => some (some 0)
  | sign :: cs => do
    let (hour, cs) ← takeDigits? 2 cs
    let ':' :: cs := cs | none
    let (minutes, cs) ← takeDigits? 2 cs
    let rest ← exactSeconds? cs
    let ahead : Int := ((hour * 60 + minutes) * minute + rest : Nat)
    if sign = '+' then some (some ahead) else if sign = '-' then some (some (-ahead)) else none

def ofIso? (s : String) : Option Moment := do
  let (date, cs) ← takeDate? s.toList
  let 'T' :: cs := cs | none
  let (clock, cs) ← takeClock? cs
  let offset ← exactOffset? cs
  ofParts? date clock.hour clock.minute clock.second clock.micro offset

end SignOn.Moment
