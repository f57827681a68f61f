import SignOn.Number.Digits

/-!
Floating-point numbers of 64 bits. A finite number is a sign and a rank, its place among the finite numbers
that are not negative, counted from zero; ranks order as the numbers do. Rounding a fraction is
exact: the nearest rank wins, and of two the even one.
-/

namespace SignOn

/-- How many finite numbers that are not negative there are. -/
def Binary64.ranks : Nat := 2047 * Nat.pow 2 52

inductive Binary64 where
  | finite (negative : Bool) (rank : Fin Binary64.ranks)
  | infinite (negative : Bool)
  | notANumber
  deriving DecidableEq

namespace Binary64

def zero : Binary64 := .finite false ⟨0, by decide⟩

/-- The whole multiple of a power of two that the number of a rank is. -/
def mantissa (rank : Nat) : Nat :=
  if rank < Nat.pow 2 52 then rank else Nat.pow 2 52 + rank % Nat.pow 2 52

/-- The exponent of that power of two, raised by 1074. -/
def scale (rank : Nat) : Nat :=
  rank / Nat.pow 2 52 - 1

/-- The number of a rank as a fraction. -/
def fraction (rank : Nat) : Nat × Nat :=
  if scale rank < 1074 then (mantissa rank, Nat.pow 2 (1074 - scale rank))
  else (mantissa rank * Nat.pow 2 (scale rank - 1074), 1)

/-- A quotient rounded to the nearest whole number, a half to the even neighbour. -/
def roundQuotient (num den : Nat) : Nat :=
  let q := num / den
  let r := num % den
  if 2 * r < den then q
  else if den < 2 * r then q + 1
  else q + q % 2

/-- The greatest power of two that is not above a positive fraction. -/
def floorLog (num den : Nat) : Int :=
  let k : Int := num.log2 - den.log2
  let below :=
    if 0 ≤ k then den * Nat.pow 2 k.toNat ≤ num else den ≤ num * Nat.pow 2 (-k).toNat
  if below then k else k - 1

/-- The rank next to a positive fraction. -/
def nearestRank (num den : Nat) : Nat :=
  let e : Int := max (floorLog num den - 52) (-1074)
  let q :=
    if 0 ≤ e then roundQuotient num (den * Nat.pow 2 e.toNat)
    else roundQuotient (num * Nat.pow 2 (-e).toNat) den
  (e + 1074).toNat * Nat.pow 2 52 + q

/-- The number of a sign and a rank, infinite above the last finite rank. -/
def ofRank (negative : Bool) (rank : Nat) : Binary64 :=
  if h : rank < ranks then .finite negative ⟨rank, h⟩ else .infinite negative

/-- The number next to a fraction. -/
def ofFraction (negative : Bool) (num den : Nat) : Binary64 :=
  if num = 0 then ofRank negative 0 else ofRank negative (nearestRank num den)

def ofInt (i : Int) : Binary64 :=
  ofFraction (i < 0) i.natAbs 1

/-- The number next to a whole number times a power of ten. Powers so large or small that the result is
infinite or zero are not computed. -/
def ofDecimal (negative : Bool) (digits : Nat) (exponent : Int) : Binary64 :=
  if digits = 0 then ofRank negative 0
  else
    let magnitude : Int := exponent + Digits.count digits
    if 310 < magnitude then .infinite negative
    else if magnitude < -330 then ofRank negative 0
    else if 0 ≤ exponent then ofFraction negative (digits * Nat.pow 10 exponent.toNat) 1
    else ofFraction negative digits (Nat.pow 10 (-exponent).toNat)

/-- Whether a number is zero, of either sign. -/
def isZero : Binary64 → Bool
  | .finite _ rank => rank.val = 0
  | _ => false

/-- The whole number that a number is, if it is one. -/
def toInt? : Binary64 → Option Int
  | .finite negative rank =>
    let (num, den) := fraction rank
    if num % den = 0 then some (if negative then -(num / den : Nat) else (num / den : Nat)) else none
  | _ => none

def isFinite : Binary64 → Bool
  | .finite .. => true
  | _ => false

end Binary64

end SignOn
