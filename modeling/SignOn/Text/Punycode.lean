import SignOn.Text.Refusal

/-!
The encoding of host names in letters and digits. The ASCII characters of a text come first; behind the last hyphen
stand the others, each by the distance to the place where it is to be inserted.
-/

namespace SignOn.Punycode

/-- What is to become of faulty text: it is refused, or decoding stops at it. -/
inductive Policy where
  | refuse
  | stop
  deriving DecidableEq

def digit? (c : Char) : Option Nat :=
  if 'A' ≤ c ∧ c ≤ 'Z' then some (c.toNat - 'A'.toNat)
  else if '0' ≤ c ∧ c ≤ '9' then some (c.toNat - '0'.toNat + 26)
  else none

/-- The digit from which on a distance goes on behind a place. -/
def threshold (place bias : Nat) : Nat :=
  min 26 (max 1 (36 * (place + 1) - bias))

/-- A distance in front of some digits, and what follows it. -/
def distance? (bias : Nat) : (place weight sum : Nat) → List Char → Option (Nat × List Char)
  | _, _, _, [] => none
  | place, weight, sum, c :: cs =>
    match digit? c with
    | none => none
    | some d =>
      let sum := sum + d * weight
      if d < threshold place bias then some (sum, cs)
      else distance? bias (place + 1) (weight * (36 - threshold place bias)) sum cs

/-- How often a distance is to be cut down, and what is left of it then. -/
def cutDown : (fuel delta : Nat) → Nat × Nat
  | 0, delta => (0, delta)
  | fuel + 1, delta =>
    if 455 < delta then
      let (times, rest) := cutDown fuel (delta / 35)
      (times + 1, rest)
    else (0, delta)

/-- The bias after a distance, for a text of so many characters. -/
def adapt (delta : Nat) (first : Bool) (length : Nat) : Nat :=
  let delta := if first then delta / 700 else delta / 2
  let (times, rest) := cutDown delta (delta + delta / length)
  36 * times + 36 * rest / (rest + 38)

/-- Inserts characters into a text. The last one was inserted in front of a place. -/
def insert (policy : Policy) :
    (fuel : Nat) → (first : Bool) → (code place bias : Nat) → (text extended : List Char) → Option (List Char)
  | 0, _, _, _, _, text, _ => some text
  | _, _, _, _, _, text, [] => some text
  | fuel + 1, first, code, place, bias, text, extended =>
    match distance? bias 0 1 0 extended with
    | none => if policy = .refuse then none else some text
    | some (delta, rest) =>
      let slots := text.length + 1
      let code := code + (place + delta) / slots
      if 0x10FFFF < code ∧ policy = .refuse then none
      else
        let code := if 0x10FFFF < code then '?'.toNat else code
        let place := (place + delta) % slots
        let text := text.take place ++ (Symbol.ofCode code).shown :: text.drop place
        insert policy fuel false code (place + 1) (adapt delta first text.length) text rest

/-- The ASCII part of some bytes and the part behind the last hyphen. -/
def split (bs : List UInt8) : List UInt8 × List UInt8 :=
  let extended := (bs.reverse.takeWhile (· != 0x2D)).reverse
  (bs.take (bs.length - extended.length - 1), extended)

/-- The first byte that is not ASCII behind the last hyphen. -/
def refusal? (bs : List UInt8) : Option Undecodable :=
  let (_, extended) := split bs
  (extended.find? (0x80 ≤ ·)).map fun b =>
    ⟨"ascii", b, extended.findIdx (0x80 ≤ ·), 1, "ordinal not in range(128)"⟩

/-- The text of some bytes that are ASCII behind the last hyphen. -/
def decode (policy : Policy) (bs : List UInt8) : Option (List Char) :=
  let (base, extended) := split bs
  let text := base.map fun b => if b < 0x80 then Char.ofNat b.toNat else Symbol.replacement
  if policy = .refuse ∧ text.contains Symbol.replacement then none
  else
    let extended := extended.map fun b => (Char.ofNat b.toNat).toUpper
    insert policy extended.length true 0x80 0 72 text extended

end SignOn.Punycode
