import SignOn.Text.Utf8
import SignOn.Text.Hex

/-!
Percent escapes. A text is written with each character outside a safe set replaced by the escapes of its
UTF-8 bytes; reading undoes the escapes and leaves a lone percent sign alone.
-/

namespace SignOn.Percent

def escape (b : UInt8) : List Char :=
  '%' :: Hex.byte b

/-- One character, escaped unless it is safe. -/
def encodeChar (safe : Char → Bool) (c : Char) : List Char :=
  if safe c then [c] else (String.utf8EncodeChar c).flatMap escape

/-- A text with all but the safe characters escaped. -/
def encode (safe : Char → Bool) (cs : List Char) : List Char :=
  cs.flatMap (encodeChar safe)

@[simp] theorem encode_nil (safe : Char → Bool) : encode safe [] = [] := rfl

@[simp] theorem encode_cons (safe : Char → Bool) (c : Char) (cs : List Char) :
    encode safe (c :: cs) = encodeChar safe c ++ encode safe cs := by
  simp [encode]

@[simp] theorem encode_append (safe : Char → Bool) (a b : List Char) :
    encode safe (a ++ b) = encode safe a ++ encode safe b := by
  simp [encode]

/-- The byte of two hexadecimal digits. -/
def byte? (a b : Char) : Option UInt8 :=
  match Hex.value? a, Hex.value? b with
  | some m, some n => some (UInt8.ofNat (m * 16 + n))
  | _, _ => none

/-- The bytes of a text, its escapes undone. -/
def bytes : List Char → List UInt8
  | [] => []
  | '%' :: a :: b :: cs =>
    match byte? a b with
    | some byte => byte :: bytes cs
    | none => String.utf8EncodeChar '%' ++ bytes (a :: b :: cs)
  | c :: cs => String.utf8EncodeChar c ++ bytes cs

/-- The text that an escaped text stands for. -/
def decode (cs : List Char) : List Char :=
  Utf8.decodeLossy (bytes cs)

/-- Encodes what stands between the escapes of a text and keeps the escapes themselves. -/
def encodeAround (safe : Char → Bool) : List Char → List Char
  | [] => []
  | '%' :: a :: b :: cs =>
    if Hex.isDigit a ∧ Hex.isDigit b then '%' :: a :: b :: encodeAround safe cs
    else encodeChar safe '%' ++ encodeAround safe (a :: b :: cs)
  | c :: cs => encodeChar safe c ++ encodeAround safe cs

/-- The characters that never need an escape. -/
def unreserved (c : Char) : Bool :=
  c.isAlphanum || c == '-' || c == '.' || c == '_' || c == '~'

end SignOn.Percent
