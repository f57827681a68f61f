import SignOn.Number.Binary64
import SignOn.Text.Cut

/-!
Numbers that settings and clients write as text: floating-point numbers with names for what is not finite, and whole
numbers, both with single low lines inside.
-/

namespace SignOn.Lenient

/-- A text without its low lines, if it has some, none at an end and no two in a row. -/
def withoutLines? (cs : List Char) : Option (List Char) :=
  let doubled := (cs.zip (cs.drop 1)).any fun p => p.1 == '_' && p.2 == '_'
  if !cs.contains '_' || cs.head? == some '_' || cs.getLast? == some '_' || doubled then none
  else some (cs.filter (· != '_'))

/-- A sign in front of some characters: whether it is a minus sign, and what follows. -/
def takeSign : List Char → Bool × List Char
  | '-' :: cs => (true, cs)
  | '+' :: cs => (false, cs)
  | cs => (false, cs)

/-- The exponent that some characters are. -/
def exponent? : List Char → Option Int
  | [] => some 0
  | e :: cs =>
    let (negative, digits) := takeSign cs
    if (e = 'e' ∨ e = 'E') ∧ !digits.isEmpty ∧ digits.all Char.isDigit then
      let n : Int := Digits.number digits
      some (if negative then -n else n)
    else none

/-- The digits behind a point, if one comes first, and what follows. -/
def behindPoint : List Char → List Char × List Char
  | '.' :: cs => Digits.span cs
  | cs => ([], cs)

/-- The floating-point number that some digits write, a point among them and an exponent behind them. -/
def decimal? (negative : Bool) (cs : List Char) : Option Binary64 :=
  let (whole, rest) := Digits.span cs
  let (fraction, rest) := behindPoint rest
  if whole.isEmpty && fraction.isEmpty then none
  else
    (exponent? rest).map fun power =>
      Binary64.ofDecimal negative (Digits.number (whole ++ fraction)) (power - fraction.length)

/-- The floating-point number that some characters write, low lines not allowed. -/
def strictReal? (cs : List Char) : Option Binary64 :=
  let (negative, cs) := takeSign cs
  let word := String.ofList (cs.map Char.toLower)
  if word = "inf" ∨ word = "infinity" then some (.infinite negative)
  else if word = "nan" then some .notANumber
  else decimal? negative cs

/-- The floating-point number that some characters write. -/
def real? (cs : List Char) : Option Binary64 :=
  match strictReal? (Blank.trim Blank.isSpace cs) with
  | some x => some x
  | none => (withoutLines? cs).bind strictReal?

/-- The whole number that some characters write: digits behind a sign, low lines not allowed. -/
def strictInt? (cs : List Char) : Option Int :=
  let (negative, digits) := takeSign cs
  if !digits.isEmpty ∧ digits.all Char.isDigit then
    let n : Int := Digits.number digits
    some (if negative then -n else n)
  else none

/-- The characters in front of a point that only zeros follow. -/
def withoutZeros (cs : List Char) : List Char :=
  let whole := cs.takeWhile (· != '.')
  if ((cs.drop whole.length).drop 1).all (· == '0') then whole else cs

/-- The whole number that some characters write. -/
def int? (cs : List Char) : Option Int :=
  let cs := withoutZeros (Blank.trim Blank.isSpace cs)
  match strictInt? cs with
  | some n => some n
  | none => (withoutLines? cs).bind strictInt?

end SignOn.Lenient
