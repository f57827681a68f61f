import SignOn.Json.Basic
import SignOn.Json.Fault
import SignOn.Text.Hex

/-!
The tokens of a source, each with the offset of its first character. A text or number that begins but cannot be
finished is a token of its own, and the last one. A source may hold halves of pairs. They are told apart by their offsets,
and among the characters of the source a replacement stands for each; inside quotes they are part of the text.
-/

namespace SignOn.Json

inductive Token where
  | openObject
  | closeObject
  | openArray
  | closeArray
  | colon
  | comma
  | text (s : Text)
  | scalar (v : Json)
  | faultyText (fault : Fault)
  | faultyNumber (fault : Fault)
  | other
  deriving DecidableEq

/-- The white space between tokens. -/
def isGap (c : Char) : Bool :=
  c == ' ' || c == '\t' || c == '\n' || c == '\r'

/-- The number of four hexadecimal digits. -/
def code? (a b c d : Char) : Option Nat :=
  Hex.number? [a, b, c, d]

/-- The character of an escape of one letter. -/
def escaped? : Char → Option Char
  | '"' => some '"'
  | '\\' => some '\\'
  | '/' => some '/'
  | 'b' => some '\x08'
  | 'f' => some '\x0c'
  | 'n' => some '\n'
  | 'r' => some '\r'
  | 't' => some '\t'
  | _ => none

/-- The symbol of an escape that begins with a code unit, and how many characters the escape takes. Behind
the escape there has to be something. -/
def scanCode (here : Nat) : List Char → Except Fault (Symbol × Nat)
  | a :: b :: c :: d :: next :: rest =>
    match code? a b c d with
    | none => .error (.malformed .badCodeEscape (here + 1))
    | some n =>
      if Surrogate.isHigh n then
        match next, rest with
        | '\\', 'u' :: e :: f :: g :: h :: _ :: _ =>
          match code? e f g h with
          | none => .error (.malformed .badCodeEscape (here + 7))
          | some m => if Surrogate.isLow m then .ok (.char (Surrogate.join n m), 12) else .ok (.ofCode n, 6)
        | _, _ => .ok (.ofCode n, 6)
      else .ok (.ofCode n, 6)
  | _ => .error (.malformed .badCodeEscape (here + 1))

/-- The symbol in front of what stands inside quotes at an offset, and how many characters it takes. -/
def scanUnit (halves : Table Half Nat) (quote here : Nat) : List Char → Except Fault (Symbol × Nat)
  | '\\' :: 'u' :: cs => scanCode here cs
  | '\\' :: e :: _ =>
    match escaped? e with
    | some c => .ok (.char c, 2)
    | none => .error (.malformed .badEscape here)
  | ['\\'] | [] => .error (.malformed .unterminated quote)
  | c :: _ =>
    if c.toNat < 0x20 then .error (.malformed .controlCharacter here)
    else .ok ((halves.get? here).elim (.char c) .half, 1)

/-- Reads what follows an opening quote, after skipping so many characters. The result is the text and the offset
behind its closing quote. -/
def scanText (halves : Table Half Nat) (quote skip here : Nat) : List Char → Except Fault (List Symbol × Nat)
  | [] => .error (.malformed .unterminated quote)
  | c :: cs =>
    match skip with
    | skip + 1 => scanText halves quote skip (here + 1) cs
    | 0 =>
      if c = '"' then .ok ([], here + 1)
      else
        match scanUnit halves quote here (c :: cs) with
        | .error fault => .error fault
        | .ok (d, length) =>
          match scanText halves quote (length - 1) (here + 1) cs with
          | .error fault => .error fault
          | .ok (ds, behind) => .ok (d :: ds, behind)

structure Numeral where
  negative : Bool
  whole : List Char
  /-- the digits behind the point, if there is one -/
  fraction : Option (List Char)
  /-- the sign and digits of the exponent, if there is one -/
  exponent : Option (Bool × List Char)
  /-- how many characters the number takes -/
  length : Nat
  deriving DecidableEq

/-- The exponent in front of some characters, and how many it takes. -/
def scanExponent : List Char → Option (Bool × List Char) × Nat
  | e :: cs =>
    if e = 'e' ∨ e = 'E' then
      let (negative, mark, digits) :=
        match cs with
        | '+' :: rest => (false, 1, (Digits.span rest).1)
        | '-' :: rest => (true, 1, (Digits.span rest).1)
        | _ => (false, 0, (Digits.span cs).1)
      if digits.isEmpty then (none, 0) else (some (negative, digits), 1 + mark + digits.length)
    else (none, 0)
  | [] => (none, 0)

/-- The fraction in front of some characters, and how many it takes. -/
def scanFraction : List Char → Option (List Char) × Nat
  | '.' :: cs =>
    let digits := (Digits.span cs).1
    if digits.isEmpty then (none, 0) else (some digits, 1 + digits.length)
  | _ => (none, 0)

/-- The number in front of some characters: the longest one. -/
def scanNumber (cs : List Char) : Option Numeral :=
  let (negative, body) :=
    match cs with
    | '-' :: rest => (true, rest)
    | _ => (false, cs)
  let whole :=
    match body with
    | '0' :: _ => ['0']
    | _ => (Digits.span body).1
  if whole.isEmpty then none
  else
    let rest := body.drop whole.length
    let (fraction, n) := scanFraction rest
    let (exponent, m) := scanExponent (rest.drop n)
    some ⟨negative, whole, fraction, exponent, (if negative then 1 else 0) + whole.length + n + m⟩

/-- The value of a number: whole unless it has a fraction or an exponent. -/
def Numeral.value (n : Numeral) : Except Fault Json :=
  match n.fraction, n.exponent with
  | none, none =>
    if maxDigits < n.whole.length then .error (.tooManyDigits n.whole.length)
    else
      let magnitude : Int := Digits.number n.whole
      .ok (.int (if n.negative then -magnitude else magnitude))
  | fraction, exponent =>
    let after := fraction.getD []
    let power : Int :=
      match exponent with
      | none => 0
      | some (negative, digits) =>
        let magnitude : Int := Digits.number digits
        if negative then -magnitude else magnitude
    .ok (.real (Binary64.ofDecimal n.negative (Digits.number (n.whole ++ after)) (power - after.length)))

/-- The words that stand for values. -/
def words : List (List Char × Json) :=
  [("null".toList, .null), ("true".toList, .bool true), ("false".toList, .bool false),
    ("NaN".toList, .real .notANumber), ("Infinity".toList, .real (.infinite false)),
    ("-Infinity".toList, .real (.infinite true))]

/-- The token in front of some characters that begin at an offset, and how many it takes. -/
def scan (halves : Table Half Nat) (here : Nat) (cs : List Char) : Token × Nat :=
  match cs with
  | '{' :: _ => (.openObject, 1)
  | '}' :: _ => (.closeObject, 1)
  | '[' :: _ => (.openArray, 1)
  | ']' :: _ => (.closeArray, 1)
  | ':' :: _ => (.colon, 1)
  | ',' :: _ => (.comma, 1)
  | '"' :: rest =>
    match scanText halves here 0 (here + 1) rest with
    | .ok (s, behind) => (.text (.ofSymbols s), behind - here)
    | .error fault => (.faultyText fault, 1)
  | _ =>
    match words.find? fun word => word.1.isPrefixOf cs with
    | some word => (.scalar word.2, word.1.length)
    | none =>
      match scanNumber cs with
      | none => (.other, 1)
      | some n =>
        match n.value with
        | .ok v => (.scalar v, n.length)
        | .error fault => (.faultyNumber fault, n.length)

def Token.isFaulty : Token → Bool
  | .faultyText _ | .faultyNumber _ => true
  | _ => false

/-- The tokens of some characters that begin at an offset, after skipping so many. -/
def tokens (halves : Table Half Nat) (skip here : Nat) : List Char → List (Nat × Token)
  | [] => []
  | c :: cs =>
    match skip with
    | skip + 1 => tokens halves skip (here + 1) cs
    | 0 =>
      if isGap c then tokens halves 0 (here + 1) cs
      else
        let (token, length) := scan halves here (c :: cs)
        (here, token) :: if token.isFaulty then [] else tokens halves (length - 1) (here + 1) cs

end SignOn.Json
