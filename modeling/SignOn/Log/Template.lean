import SignOn.Json.Display
import SignOn.Failure.Trouble

/-!
Templates: texts with places for values, each a percent sign, perhaps the name of a value in parentheses, how it is laid
out, and a letter for its form.
-/

namespace SignOn.Log.Template

/-- A width or precision: none, a number, or taken from the values. -/
inductive Measure where
  | none
  | given (n : Nat)
  | taken
  deriving DecidableEq

def maxWidth : Nat := Nat.pow 2 63 - 1

def maxPrecision : Nat := Nat.pow 2 31 - 1

/-- Whether a measure that is given stays below a bound. -/
def Measure.fits (m : Measure) (bound : Nat) : Bool :=
  match m with
  | .given n => n ≤ bound
  | _ => true

/-- A place for a value. -/
structure Place where
  name : Option String
  flags : List Char
  width : Measure
  precision : Measure
  form : Char
  deriving DecidableEq

inductive Part where
  | char (c : Char)
  | place (p : Place)
  /-- a place that is not finished, or asks for too much -/
  | broken
  deriving DecidableEq

/-- How many characters a name takes up to the parenthesis that closes it, inner pairs passed over. -/
def nameLength? (depth : Nat) : List Char → Option Nat
  | [] => none
  | ')' :: cs => if depth = 0 then some 0 else (nameLength? (depth - 1) cs).map (· + 1)
  | '(' :: cs => (nameLength? (depth + 1) cs).map (· + 1)
  | _ :: cs => (nameLength? depth cs).map (· + 1)

/-- The measure in front of some characters, and what follows. -/
def scanMeasure (otherwise : Measure) (cs : List Char) : Measure × List Char :=
  match cs with
  | '*' :: rest => (.taken, rest)
  | _ =>
    let (digits, rest) := Digits.span cs
    (if digits.isEmpty then otherwise else .given (Digits.number digits), rest)

/-- The place behind a percent sign, and how many characters it takes. -/
def scanPlace (cs : List Char) : Option (Place × Nat) := do
  let (name, behindName) ←
    match cs with
    | '(' :: rest => do
      let n ← nameLength? 0 rest
      some (some (String.ofList (rest.take n)), rest.drop (n + 1))
    | _ => some (none, cs)
  let flags := behindName.takeWhile "-+ #0".toList.contains
  let (width, behindWidth) := scanMeasure .none (behindName.drop flags.length)
  let (precision, behindPrecision) :=
    match behindWidth with
    | '.' :: rest => scanMeasure (.given 0) rest
    | _ => (.none, behindWidth)
  let behindSize :=
    match behindPrecision with
    | 'h' :: rest | 'l' :: rest | 'L' :: rest => rest
    | _ => behindPrecision
  match behindSize with
  | [] => none
  | form :: rest =>
    if width.fits maxWidth && precision.fits maxPrecision then
      some (⟨name, flags, width, precision, form⟩, cs.length - rest.length)
    else none

/-- The parts of a template, after skipping so many characters. Two percent signs in a row are one that is meant. -/
def parts (skip : Nat) : List Char → List Part
  | [] => []
  | c :: cs =>
    match skip with
    | skip + 1 => parts skip cs
    | 0 =>
      if c = '%' then
        if cs.head? = some '%' then .char c :: parts 1 cs
        else
          match scanPlace cs with
          | some (place, length) => .place place :: parts length cs
          | none => [.broken]
      else .char c :: parts 0 cs

/-- The values that are still to be filled in: a row, or named ones beside the one that stands ready. -/
inductive Supply where
  | row (values : List Json)
  | named (members : Json.Members) (ready : Option Json)

/-- Named values, which at first serve as a single value together. -/
def Supply.ofMembers (members : Json.Members) : Supply :=
  .named members (some (.obj members))

/-- Makes the value of a name stand ready. -/
def Supply.select (s : Supply) : Option String → Except Trouble Supply
  | none => .ok s
  | some name =>
    match s with
    | .row _ => .error (.broken .wrongType "format requires a mapping")
    | .named members _ =>
      match members.get? name with
      | some v => .ok (.named members (some v))
      | none => .error (.broken .missingKey name)

/-- Takes the next value. -/
def Supply.next : Supply → Except Trouble (Json × Supply)
  | .row (v :: vs) => .ok (v, .row vs)
  | .named members (some v) => .ok (v, .named members none)
  | _ => .error (.broken .wrongType "not enough arguments for format string")

/-- A measure as a number, taken from the values if it says so. -/
def Supply.measure (s : Supply) (bound : Nat) : Measure → Except Trouble (Option Int × Supply)
  | .none => .ok (none, s)
  | .given n => .ok (some n, s)
  | .taken => do
    match ← s.next with
    | (.int i, s) =>
      if i.natAbs ≤ bound then .ok (some i, s)
      else .error (.broken .overflow "* does not fit")
    | (.bool b, s) => .ok (some (if b then 1 else 0), s)
    | _ => .error (.broken .wrongType "* wants int")

def wholeOf (v : Json) (onlyInt : Bool) : Except Trouble (Bool × Nat) :=
  match v with
  | .int i => .ok (i < 0, i.natAbs)
  | .bool b => .ok (false, if b then 1 else 0)
  | .real (.finite negative rank) =>
    if onlyInt then .error (.broken .wrongType "an integer is required")
    else
      let (n, d) := Binary64.fraction rank
      .ok (negative && n / d != 0, n / d)
  | .real (.infinite _) =>
    if onlyInt then .error (.broken .wrongType "an integer is required")
    else .error (.broken .overflow "cannot convert float infinity to integer")
  | .real .notANumber =>
    if onlyInt then .error (.broken .wrongType "an integer is required")
    else .error (.broken .wrongValue "cannot convert float NaN to integer")
  | _ => .error (.broken .wrongType "a real number is required")

def realOf (v : Json) : Except Trouble Binary64 :=
  match v with
  | .real x => .ok x
  | .int i =>
    let x := Binary64.ofInt i
    if x.isFinite then .ok x else .error (.broken .overflow "int too large to convert to float")
  | .bool b => .ok (Binary64.ofInt (if b then 1 else 0))
  | _ => .error (.broken .wrongType "must be real number")

/-- Digits with so many places behind the point. -/
def fixed (n d places : Nat) (point : Bool) : List Char :=
  let scaled := Binary64.roundQuotient (n * Nat.pow 10 places) d
  let whole := Digits.ofNat (scaled / Nat.pow 10 places)
  if places = 0 then whole ++ (if point then ['.'] else [])
  else whole ++ '.' :: Digits.padded places (scaled % Nat.pow 10 places)

/-- The digits of a fraction rounded to so many, and the exponent of the first. -/
def rounded (n d count : Nat) : List Char × Int :=
  if n = 0 then (List.replicate count '0', 0)
  else
    let lead := Binary64.leadingExponent n d
    let (p, q) := Binary64.powerOfTen (lead - count + 1)
    let k := Binary64.roundQuotient (n * q) (d * p)
    if Nat.pow 10 count ≤ k then (Digits.ofNat (k / 10), lead + 1) else (Digits.ofNat k, lead)

/-- An exponent behind its mark. -/
def exponentPart (exponent : Int) : List Char :=
  'e' :: (if exponent < 0 then '-' else '+') :: Digits.padded 2 exponent.natAbs

/-- Digits with an exponent. -/
def scientific (n d places : Nat) (point : Bool) : List Char :=
  let (digits, exponent) := rounded n d (places + 1)
  let after := digits.drop 1
  digits.take 1 ++ (if after.isEmpty then (if point then ['.'] else []) else '.' :: after) ++
    exponentPart exponent

/-- Digits in whichever of the two layouts suits their exponent. -/
def general (n d places : Nat) (keepZeros : Bool) : List Char :=
  let count := max places 1
  let (digits, exponent) := rounded n d count
  let trim (cs : List Char) : List Char := if keepZeros then cs else Digits.trimZeros cs
  let join (whole after : List Char) : List Char :=
    whole ++ (if after.isEmpty && !keepZeros then [] else '.' :: after)
  if exponent < -4 ∨ count ≤ exponent then
    join (digits.take 1) (trim (digits.drop 1)) ++ exponentPart exponent
  else if exponent < 0 then
    join ['0'] (trim (List.replicate (-exponent - 1).toNat '0' ++ digits))
  else join (digits.take (exponent.toNat + 1)) (trim (digits.drop (exponent.toNat + 1)))

def inBase (base n : Nat) : List Char :=
  Nat.toDigits base n

/-- A text with all that is not ASCII escaped. -/
def asciiOnly (cs : List Char) : List Char :=
  cs.flatMap fun c => if c.toNat < 0x80 then [c] else Quote.escape c.toNat

/-- A value before it is padded: a number as its sign, mark and digits, anything else as text. -/
inductive Written where
  | number (negative : Bool) (mark body : List Char)
  | plain (ss : List Symbol)

def writeReal (p : Place) (precision : Option Int) (v : Json) : Except Trouble Written := do
  let places := (precision.getD 6).toNat
  let alternate := p.flags.contains '#'
  let capital := p.form.isUpper
  let case (cs : List Char) : List Char := if capital then cs.map Char.toUpper else cs
  match ← realOf v with
  | .infinite negative => .ok (.number negative [] (case "inf".toList))
  | .notANumber => .ok (.number false [] (case "nan".toList))
  | .finite negative rank =>
    let (n, d) := Binary64.fraction rank
    let body :=
      match p.form.toLower with
      | 'e' => scientific n d places alternate
      | 'f' => fixed n d places alternate
      | _ => general n d places alternate
    .ok (.number negative [] (case body))

def write (p : Place) (precision : Option Int) (v : Json) : Except Trouble Written :=
  let cutText (ss : List Symbol) : Written :=
    .plain (match precision with | some n => ss.take n.toNat | none => ss)
  let digitsOf (cs : List Char) : List Char :=
    List.replicate ((precision.getD 0).toNat - cs.length) '0' ++ cs
  let marked (mark : String) : List Char := if p.flags.contains '#' then mark.toList else []
  match p.form with
  | 's' => .ok (cutText v.display.symbols)
  | 'r' => .ok (cutText (v.shown.map .char))
  | 'a' => .ok (cutText ((asciiOnly v.shown).map .char))
  | 'd' | 'i' | 'u' => do
    let (negative, n) ← wholeOf v false
    .ok (.number negative [] (digitsOf (Digits.ofNat n)))
  | 'x' => do
    let (negative, n) ← wholeOf v true
    .ok (.number negative (marked "0x") (digitsOf (inBase 16 n)))
  | 'X' => do
    let (negative, n) ← wholeOf v true
    .ok (.number negative (marked "0X") (digitsOf ((inBase 16 n).map Char.toUpper)))
  | 'o' => do
    let (negative, n) ← wholeOf v true
    .ok (.number negative (marked "0o") (digitsOf (inBase 8 n)))
  | 'e' | 'E' | 'f' | 'F' | 'g' | 'G' => writeReal p precision v
  | 'c' =>
    match v with
    | .str s =>
      if s.symbols.length = 1 then .ok (.plain s.symbols) else .error (.broken .wrongType "%c requires int or char")
    | .int i =>
      if 0 ≤ i ∧ i < 0x110000 then .ok (.plain [.ofCode i.toNat])
      else .error (.broken .overflow "%c arg not in range(0x110000)")
    | .bool b => .ok (.plain [.char (Char.ofNat (if b then 1 else 0))])
    | _ => .error (.broken .wrongType "%c requires int or char")
  | _ => .error (.broken .wrongValue "unsupported format character")

/-- A written form padded to a width. -/
def pad (p : Place) (width : Option Int) (w : Written) : List Symbol :=
  let asked := (width.getD 0).natAbs
  let left := p.flags.contains '-' || (width.getD 0) < 0
  let spaces (ss : List Symbol) : List Symbol :=
    let fill := List.replicate (asked - ss.length) (.char ' ')
    if left then ss ++ fill else fill ++ ss
  match w with
  | .plain ss => spaces ss
  | .number negative mark body =>
    let sign :=
      if negative then ['-']
      else if p.flags.contains '+' then ['+']
      else if p.flags.contains ' ' then [' ']
      else []
    if p.flags.contains '0' && !left then
      let zeros := List.replicate (asked - (sign.length + mark.length + body.length)) '0'
      (sign ++ mark ++ zeros ++ body).map .char
    else spaces ((sign ++ mark ++ body).map .char)

def fillPlace (p : Place) (s : Supply) : Except Trouble (List Symbol × Supply) := do
  let s ← s.select p.name
  let (width, s) ← s.measure maxWidth p.width
  let (precision, s) ← s.measure maxPrecision p.precision
  let (v, s) ← s.next
  let w ← write p precision v
  .ok (pad p width w, s)

/-- All parts filled in order. Values of a row that are left over are too many. -/
def fillParts : List Part → Supply → Except Trouble (List Symbol)
  | [], .row (_ :: _) =>
    .error (.broken .wrongType "not all arguments converted during string formatting")
  | [], _ => .ok []
  | .char c :: ps, s => (fillParts ps s).map (.char c :: ·)
  | .broken :: _, _ => .error (.broken .wrongValue "incomplete format")
  | .place p :: ps, s => do
    let (ss, s) ← fillPlace p s
    (fillParts ps s).map (ss ++ ·)

def fill (template : String) (values : List Json) : Except Trouble Text :=
  (fillParts (parts 0 template.toList) (.row values)).map .ofSymbols

def fillNamed (template : String) (members : Json.Members) : Except Trouble Text :=
  (fillParts (parts 0 template.toList) (.ofMembers members)).map .ofSymbols

end SignOn.Log.Template
