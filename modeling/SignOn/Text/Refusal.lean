import SignOn.Text.Quote
import SignOn.Text.Utf8

/-!
Words of refusal: for bytes that are no text in the encoding they should be in, and for texts that have no bytes in the
encoding that is wanted.
-/

namespace SignOn

/-- A stretch of bytes that an encoding refuses. -/
structure Undecodable where
  encoding : String
  /-- the first byte of the stretch -/
  lead : UInt8
  offset : Nat
  length : Nat
  reason : String
  deriving DecidableEq

/-- The message for a refused stretch: a single byte is shown, a longer stretch only located. -/
def Undecodable.message (u : Undecodable) : String :=
  let place :=
    if u.length = 1 then
      "byte 0x" ++ String.ofList (Hex.padded 2 u.lead.toNat) ++ s!" in position {u.offset}"
    else s!"bytes in position {u.offset}-{u.offset + u.length - 1}"
  s!"'{u.encoding}' codec can't decode {place}: {u.reason}"

def Utf8.Reason.text : Utf8.Reason → String
  | .invalidStart => "invalid start byte"
  | .invalidContinuation => "invalid continuation byte"
  | .truncated => "unexpected end of data"

def Undecodable.ofUtf8 (f : Utf8.Fault) : Undecodable :=
  ⟨"utf-8", f.lead, f.offset, f.length, f.reason.text⟩

/-- The words for the first stretch of symbols that an encoding does not admit, if there is one. -/
def unencodable? (encoding reason : String) (admits : Symbol → Bool) (ss : List Symbol) : Option String :=
  let before := ss.takeWhile admits
  match (ss.drop before.length).takeWhile (!admits ·) with
  | [] => none
  | [s] =>
    some <| s!"'{encoding}' codec can't encode character '" ++ String.ofList (Quote.escape s.code) ++
      s!"' in position {before.length}: {reason}"
  | stretch =>
    let last := before.length + stretch.length - 1
    some s!"'{encoding}' codec can't encode characters in position {before.length}-{last}: {reason}"

namespace Ascii

def isAscii (c : Char) : Bool :=
  c.toNat < 0x80

def admits : Symbol → Bool
  | .char c => isAscii c
  | .half _ => false

def refusal? (t : Text) : Option String :=
  unencodable? "ascii" "ordinal not in range(128)" admits t.symbols

end Ascii

namespace Utf8

def admits : Symbol → Bool
  | .char _ => true
  | .half _ => false

def refusal? (ss : List Symbol) : Option String :=
  unencodable? "utf-8" "surrogates not allowed" admits ss

end Utf8

end SignOn
