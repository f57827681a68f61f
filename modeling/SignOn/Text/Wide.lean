import SignOn.Text.Refusal

/-!
Encodings in units of two and four bytes. A strict reader lets halves of pairs stand alone and takes bytes that are left
over at the end for a fault, as it does a unit above the last code point; a lossy one replaces all of them.
-/

namespace SignOn.Wide

/-- Which byte of a unit comes first. -/
inductive ByteOrder where
  | little
  | big
  deriving DecidableEq

def ByteOrder.pair : ByteOrder → UInt8 → UInt8 → Nat
  | .little, a, b => b.toNat * 256 + a.toNat
  | .big, a, b => a.toNat * 256 + b.toNat

def ByteOrder.quad (order : ByteOrder) (a b c d : UInt8) : Nat :=
  match order with
  | .little => order.pair c d * 65536 + order.pair a b
  | .big => order.pair a b * 65536 + order.pair c d

/-- The two-byte units, and the bytes left over. -/
def pairs (order : ByteOrder) : List UInt8 → List Nat × List UInt8
  | a :: b :: bs =>
    let (units, rest) := pairs order bs
    (order.pair a b :: units, rest)
  | rest => ([], rest)

/-- The four-byte units, and the bytes left over. -/
def quads (order : ByteOrder) : List UInt8 → List Nat × List UInt8
  | a :: b :: c :: d :: bs =>
    let (units, rest) := quads order bs
    (order.quad a b c d :: units, rest)
  | rest => ([], rest)

/-- The symbols of two-byte units. -/
def join : List Nat → List Symbol
  | [] => []
  | [n] => [.ofCode n]
  | n :: m :: rest =>
    if Surrogate.isHigh n ∧ Surrogate.isLow m then .char (Surrogate.join n m) :: join rest
    else .ofCode n :: join (m :: rest)

/-- The name of an encoding with units of so many bits. -/
def name (bits : String) : ByteOrder → String
  | .little => s!"utf-{bits}-le"
  | .big => s!"utf-{bits}-be"

/-- The fault of bytes left over behind an offset. -/
def truncated (bits : String) (order : ByteOrder) (offset : Nat) : List UInt8 → Option Undecodable
  | [] => none
  | b :: bs => some ⟨name bits order, b, offset, bs.length + 1, "truncated data"⟩

/-- The symbols of bytes in units of two, which begin at an offset. -/
def decode16 (order : ByteOrder) (offset : Nat) (bs : List UInt8) : Except Undecodable (List Symbol) :=
  let (units, rest) := pairs order bs
  match truncated "16" order (offset + 2 * units.length) rest with
  | some fault => .error fault
  | none => .ok (join units)

/-- The symbols of bytes in units of four, which begin at an offset. -/
def decode32 (order : ByteOrder) (offset : Nat) (bs : List UInt8) : Except Undecodable (List Symbol) :=
  let (units, rest) := quads order bs
  match units.findIdx? (0x110000 ≤ ·) with
  | some i =>
    .error ⟨name "32" order, (bs.drop (4 * i)).headD 0, offset + 4 * i, 4, "code point not in range(0x110000)"⟩
  | none =>
    match truncated "32" order (offset + 4 * units.length) rest with
    | some fault => .error fault
    | none => .ok (units.map .ofCode)

/-- The text of bytes in units of two, faults replaced. -/
def lossy16 (order : ByteOrder) (bs : List UInt8) : List Char :=
  let (units, rest) := pairs order bs
  let endsHigh := units.getLast?.any Surrogate.isHigh
  (join units).map Symbol.shown ++ if rest.isEmpty || endsHigh then [] else [Symbol.replacement]

/-- The character of a four-byte unit, replaced if there is none. -/
def shown (n : Nat) : Char :=
  if 0x110000 ≤ n then Symbol.replacement else (Symbol.ofCode n).shown

/-- The text of bytes in units of four, faults replaced. -/
def lossy32 (order : ByteOrder) (bs : List UInt8) : List Char :=
  let (units, rest) := quads order bs
  units.map shown ++ if rest.isEmpty then [] else [Symbol.replacement]

end SignOn.Wide
