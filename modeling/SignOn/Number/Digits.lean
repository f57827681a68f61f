/-!
Decimal digits.
-/

namespace SignOn.Digits

/-- The value of an ASCII decimal digit. -/
def value (c : Char) : Nat :=
  c.toNat - 0x30

/-- The number that a row of decimal digits denotes. -/
def number (cs : List Char) : Nat :=
  cs.foldl (fun n c => n * 10 + value c) 0

def ofNat (n : Nat) : List Char :=
  Nat.toDigits 10 n

def ofInt : Int → List Char
  | .ofNat n => ofNat n
  | .negSucc n => '-' :: ofNat (n + 1)

def count (n : Nat) : Nat :=
  (ofNat n).length

/-- A natural number with zeros in front up to a width. -/
def padded (width n : Nat) : List Char :=
  List.replicate (width - count n) '0' ++ ofNat n

/-- A row of characters without the zeros at its end. -/
def trimZeros (cs : List Char) : List Char :=
  (cs.reverse.dropWhile (· = '0')).reverse

/-- The longest run of digits in front, and the rest. -/
def span (cs : List Char) : List Char × List Char :=
  cs.span Char.isDigit

@[simp] theorem number_nil : number [] = 0 := rfl

end SignOn.Digits
