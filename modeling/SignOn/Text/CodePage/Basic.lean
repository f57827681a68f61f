import SignOn.Text.Utf8

/-!
Charsets of one byte per character. A page lists the characters of its bytes from the first one that is not ASCII on.
-/

namespace SignOn

/-- A charset of one byte per character. -/
structure CodePage where
  name : String
  aliases : List String := []
  /-- the first byte that the page lists -/
  first : Nat := 0x80
  /-- the characters, a replacement for bytes that have none -/
  chars : String
  deriving DecidableEq

namespace CodePage

/-- The character of a byte on a page whose characters are laid out in a row. -/
def charOf (first : Nat) (row : Array Char) (b : UInt8) : Char :=
  if b.toNat < first then Char.ofNat b.toNat else row.getD (b.toNat - first) Symbol.replacement

def decode (p : CodePage) (bs : List UInt8) : List Char :=
  bs.map (charOf p.first p.chars.toList.toArray)

@[simp] theorem decode_nil (p : CodePage) : p.decode [] = [] := rfl

@[simp] theorem length_decode (p : CodePage) (bs : List UInt8) : (p.decode bs).length = bs.length := by
  simp [decode]

end CodePage

end SignOn
