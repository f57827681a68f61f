import SignOn.Number.Binary64

/-!
The text of a floating-point number: the fewest digits that read back, the nearest of those, laid out
positionally for middling exponents and with an exponent otherwise.
-/

namespace SignOn.Binary64

/-- Decimal digits and the exponent of the first of them. -/
structure Decimal where
  digits : List Char
  exponent : Int
  deriving DecidableEq

/-- The exponent of the leading decimal digit of a positive fraction. -/
def leadingExponent (num den : Nat) : Int :=
  if den ≤ num then (Digits.count (num / den) : Int) - 1
  else -(Digits.count ((den - 1) / num) : Int)

def powerOfTen (exponent : Int) : Nat × Nat :=
  if 0 ≤ exponent then (Nat.pow 10 exponent.toNat, 1) else (1, Nat.pow 10 (-exponent).toNat)

/-- Whether a fraction rounds to the number of a rank: the ends of the interval lie half way to the
neighbours and belong to it when the rank is even. -/
def readsBack (rank num den : Nat) : Bool :=
  let (n, d) := fraction rank
  let gap := if scale rank < 1074 then 1 else Nat.pow 2 (scale rank - 1074)
  let low := 4 * n - (if mantissa rank = Nat.pow 2 52 ∧ 0 < scale rank then gap else 2 * gap)
  let high := 4 * n + 2 * gap
  if rank % 2 = 0 then low * den ≤ 4 * num * d && 4 * num * d ≤ high * den
  else low * den < 4 * num * d && 4 * num * d < high * den

/-- The decimal of so many digits that reads back, if there is one; of two the nearer, and of two equally
near the even one. -/
def decimalOf? (rank digits : Nat) : Option Decimal :=
  let (n, d) := fraction rank
  let unit : Int := leadingExponent n d - digits + 1
  let (p, q) := powerOfTen unit
  let below := n * q / (d * p)
  let rest := n * q % (d * p)
  let written (k : Nat) : Decimal := ⟨Digits.trimZeros (Digits.ofNat k), unit + Digits.count k - 1⟩
  let fits (k : Nat) : Bool := 0 < k && readsBack rank (k * p) q
  match fits below, fits (below + 1) with
  | true, true =>
    if 2 * rest < d * p ∨ (2 * rest = d * p ∧ below % 2 = 0) then some (written below)
    else some (written (below + 1))
  | true, false => some (written below)
  | false, true => some (written (below + 1))
  | false, false => none

/-- The shortest decimal that reads back. Seventeen digits always suffice. -/
def shortest (rank : Nat) : Decimal :=
  ((List.range 17).findSome? fun k => decimalOf? rank (k + 1)).getD ⟨['0'], 0⟩

/-- How numbers are written. -/
structure Layout where
  /-- the least exponent written positionally -/
  least : Int
  /-- the least exponent that is no longer written positionally -/
  bound : Int
  /-- how many digits an exponent has at least -/
  exponentWidth : Nat
  infinity : String
  notANumber : String

/-- The plain layout: positional from a ten-thousandth to below ten to the sixteenth, with at least one
digit after the point; other exponents have a sign and two digits. -/
def Layout.plain : Layout := ⟨-4, 16, 2, "inf", "nan"⟩

def Layout.place (layout : Layout) (decimal : Decimal) : List Char :=
  let ⟨digits, exponent⟩ := decimal
  if layout.least ≤ exponent ∧ exponent < layout.bound then
    if exponent < 0 then
      '0' :: '.' :: (List.replicate (-exponent - 1).toNat '0' ++ digits)
    else
      let whole := exponent.toNat + 1
      let after := digits.drop whole
      digits.take whole ++ List.replicate (whole - digits.length) '0' ++
        '.' :: (if after.isEmpty then ['0'] else after)
  else
    let power := Digits.padded layout.exponentWidth exponent.natAbs
    digits.take 1 ++ (if digits.length ≤ 1 then [] else '.' :: digits.drop 1) ++
      'e' :: (if exponent < 0 then '-' else '+') :: power

def Layout.write (layout : Layout) : Binary64 → List Char
  | .finite negative rank =>
    let body := if rank.val = 0 then layout.place ⟨['0'], 0⟩ else layout.place (shortest rank)
    if negative then '-' :: body else body
  | .infinite negative =>
    let body := layout.infinity.toList
    if negative then '-' :: body else body
  | .notANumber => layout.notANumber.toList

def text (x : Binary64) : String :=
  String.ofList (Layout.plain.write x)

end SignOn.Binary64
