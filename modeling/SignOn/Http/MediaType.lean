import SignOn.Text.Charset
import SignOn.Text.Case
import SignOn.Text.Percent
import SignOn.Number.Numeral

/-!
The charset of a media type. Parameters stand behind semicolons and may be quoted; the value of one may come in several
numbered pieces, and pieces with escapes begin with a charset of their own.
-/

namespace SignOn.MediaType

/-- Why the parameters of a media type have no reading. -/
inductive Fault where
  /-- a parameter has pieces with numbers and without; the first that differs from the others has one or not -/
  | mixed (numbered : Bool)
  /-- a piece has a number of so many digits -/
  | longNumber (digits : Nat)
  /-- the name of a charset holds the zero character -/
  | zero
  deriving DecidableEq

/-- Cuts a text at semicolons. One counts where the quotes in front of it, since the last one that counts, are even in
number; a quote behind a backslash does not count. -/
def cutParts (inQuotes escaped : Bool) : List Char → List (List Char)
  | [] => [[]]
  | c :: cs =>
    if c = ';' ∧ !inQuotes then [] :: cutParts false false cs
    else
      match cutParts (if c = '"' ∧ !escaped then !inQuotes else inQuotes) (c = '\\') cs with
      | [] => [[c]]
      | part :: parts => (c :: part) :: parts

/-- A text with one character in place of each of two that follow each other. -/
def contract (a b new : Char) : List Char → List Char
  | c :: d :: cs => if c = a ∧ d = b then new :: contract a b new cs else c :: contract a b new (d :: cs)
  | cs => cs

/-- A value without its quotes or angle brackets. -/
def unquote (value : List Char) : List Char :=
  match value with
  | '"' :: rest =>
    if rest.getLast? = some '"' then contract '\\' '"' '"' (contract '\\' '\\' '\\' rest.dropLast) else value
  | '<' :: rest => if rest.getLast? = some '>' then rest.dropLast else value
  | _ => value

/-- The name and the value of a part. -/
def parameter (part : List Char) : List Char × List Char :=
  let trim := Blank.trim Blank.isBlank
  let name := part.takeWhile (· != '=')
  match part.drop name.length with
  | _ :: value => ((Case.lower (String.ofList (trim name))).toList, unquote (trim value))
  | [] => (trim part, [])

/-- A piece of a value. -/
structure Piece where
  number : Option Nat
  text : List Char
  /-- whether it holds escapes -/
  escaped : Bool
  deriving DecidableEq

def isWord (c : Char) : Bool :=
  c.isAlphanum || c == '_'

/-- The name of a value of which a parameter is a piece, and the digits of its number. -/
def pieceName? (name : List Char) : Option (List Char × Option (List Char)) :=
  let word := name.takeWhile isWord
  if word.isEmpty then none
  else
    match name.drop word.length with
    | ['*'] => some (word, none)
    | '*' :: rest =>
      let digits := rest.takeWhile Char.isDigit
      let behind := rest.drop digits.length
      if digits.isEmpty ∨ (behind ≠ [] ∧ behind ≠ ['*']) then none else some (word, some digits)
    | _ => none

/-- The order of texts by their code points. -/
def textLe : List Char → List Char → Bool
  | [], _ => true
  | _, [] => false
  | c :: cs, d :: ds => c.toNat < d.toNat || (c == d && textLe cs ds)

/-- The order of pieces that all have numbers or all have none. -/
def Piece.le (p q : Piece) : Bool :=
  let number (p : Piece) : Nat := p.number.getD 0
  number p < number q ||
    (number p == number q && (if p.text = q.text then !p.escaped || q.escaped else textLe p.text q.text))

/-- The characters that escapes stand for, one for each byte. -/
def unescape : List Char → List Char
  | '%' :: a :: b :: cs =>
    match Percent.byte? a b with
    | some byte => Char.ofNat byte.toNat :: unescape cs
    | none => '%' :: unescape (a :: b :: cs)
  | c :: cs => c :: unescape cs
  | [] => []

/-- A value: plain, or in a charset that may be named. -/
inductive Value where
  | plain (text : List Char)
  | coded (charset : Option (List Char)) (text : List Char)
  deriving DecidableEq

/-- The value that pieces make up in their order. -/
def assemble (pieces : List Piece) : Except Fault Value :=
  match pieces.find? fun p => p.number.isSome != (pieces.head?.bind (·.number)).isSome with
  | some p => .error (.mixed p.number.isSome)
  | none =>
    let sorted := pieces.mergeSort Piece.le
    let text := sorted.flatMap fun p => if p.escaped then unescape p.text else p.text
    if pieces.any (·.escaped) then
      match Text.cut '\'' text with
      | charset :: _ :: rest@(_ :: _) => .ok (.coded (some charset) (['\''].intercalate rest))
      | _ => .ok (.coded none text)
    else .ok (.plain text)

/-- The parameters of a media type: those that come whole, and then those that come in pieces. The first part is never a
piece. -/
def parameters (text : List Char) : Except Fault (List (List Char × Value)) := do
  let parts := (cutParts false false text).map parameter
  let whole (p : List Char × List Char) : Bool := (pieceName? p.1).isNone
  let first := parts.take 1
  let plain := first ++ (parts.drop 1).filter whole
  let pieces ← (parts.drop 1).filterMapM fun p =>
    match pieceName? p.1 with
    | none => .ok none
    | some (name, digits) =>
      let tooLong := (digits.map (·.length)).filter (Numeral.maxDigits < ·)
      match tooLong with
      | some n => .error (.longNumber n)
      | none => .ok (some (name, Piece.mk (digits.map Digits.number) p.2 (p.1.getLast? = some '*')))
  let names := (pieces.map (·.1)).eraseDups
  let split ← names.mapM fun name => do
    let value ← assemble ((pieces.filter (·.1 = name)).map (·.2))
    return (name, value)
  return plain.map (fun p => (p.1, .plain p.2)) ++ split

/-- The bytes of a text with an escape for each character that is none. -/
def bytes (text : List Char) : List UInt8 :=
  text.flatMap fun c =>
    if c.toNat < 0x100 then [c.toNat.toUInt8] else (Quote.escape c.toNat).map (·.toNat.toUInt8)

/-- The text of a value. One whose charset does not fit is taken as it is. -/
def Value.text : Value → Except Fault (List Char)
  | .plain text => .ok text
  | .coded charset text =>
    let name := (charset.filter (!·.isEmpty)).getD "us-ascii".toList
    if name.contains '\x00' then .error .zero
    else .ok (((Charset.named? name).bind (·.strict? (bytes text))).getD text)

/-- The charset that a media type declares. -/
def declared? (text : List Char) : Except Fault (Option (List Char)) := do
  let parameters ← parameters text
  match parameters.find? fun p => p.1.map Char.toLower = "charset".toList with
  | none => return none
  | some p =>
    let name ← p.2.text
    return if name.all Ascii.isAscii then some (name.map Char.toLower) else none

/-- The charset to read a body in: the declared one if it is known, and UTF-8 otherwise. -/
def charset (contentType : Option String) : Except Fault Charset := do
  match ← (contentType.elim (.ok none) fun text => declared? text.toList) with
  | none => return .utf8
  | some name => if name.contains '\x00' then .error .zero else return (Charset.named? name).getD .utf8

end SignOn.MediaType
