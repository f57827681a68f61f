import SignOn.Json.Reader
import SignOn.Text.Wide

/-!
Reading a value from bytes. A byte order mark or the zero bytes among the first four tell the encoding.
-/

namespace SignOn.Json

inductive Encoding where
  | utf8
  | utf16 (order : Wide.ByteOrder)
  | utf32 (order : Wide.ByteOrder)
  deriving DecidableEq

namespace Encoding

/-- The byte order marks. A longer one counts over a shorter one that it begins with. -/
def marks : List (List UInt8 × Encoding) :=
  [ ([0x00, 0x00, 0xFE, 0xFF], .utf32 .big),
    ([0xFF, 0xFE, 0x00, 0x00], .utf32 .little),
    ([0xFE, 0xFF], .utf16 .big),
    ([0xFF, 0xFE], .utf16 .little),
    ([0xEF, 0xBB, 0xBF], .utf8) ]

/-- The encoding that the zeros among the first bytes tell. -/
def ofZeros : List UInt8 → Encoding
  | a :: b :: c :: d :: _ =>
    if a = 0 then (if b = 0 then .utf32 .big else .utf16 .big)
    else if b = 0 then (if c = 0 ∧ d = 0 then .utf32 .little else .utf16 .little)
    else .utf8
  | [a, b] => if a = 0 then .utf16 .big else if b = 0 then .utf16 .little else .utf8
  | _ => .utf8

/-- The encoding of some bytes, and the length of the mark in front of them. -/
def detect (bs : List UInt8) : Encoding × Nat :=
  match marks.find? (·.1.isPrefixOf bs) with
  | some (mark, encoding) => (encoding, mark.length)
  | none => (ofZeros bs, 0)

end Encoding

/-- The source in some bytes. Offsets of faults count the mark, save in UTF-8. -/
def decodeText (bs : List UInt8) : Except Undecodable (List Symbol) :=
  let (encoding, mark) := Encoding.detect bs
  match encoding with
  | .utf8 => (Utf8.decode (bs.drop mark)).mapError .ofUtf8
  | .utf16 order => Wide.decode16 order mark (bs.drop mark)
  | .utf32 order => Wide.decode32 order mark (bs.drop mark)

/-- Why some bytes are no value. -/
inductive Garbled where
  | bytes (u : Undecodable)
  | source (text : List Char) (fault : Fault)
  deriving DecidableEq

def Garbled.message : Garbled → String
  | .bytes u => u.message
  | .source text fault => fault.message text

/-- The value that some bytes denote. -/
def readBytes (bs : List UInt8) : Except Garbled Json :=
  match decodeText bs with
  | .error u => .error (.bytes u)
  | .ok source =>
    let text := source.map Symbol.shown
    match readWith (Symbol.halves 0 source) text with
    | .error fault => .error (.source text fault)
    | .ok v => .ok v

end SignOn.Json
