import SignOn.Text.Surrogate

/-!
UTF-8. A text becomes bytes by `encode`. Bytes are cut into pieces, each a character or the longest
faulty stretch that no character can begin with; `decode` refuses the first fault and says where it
stands, save that it lets halves of pairs pass, and `decodeLossy` puts one replacement character for each.
-/

namespace SignOn.Utf8

def encode (cs : List Char) : List UInt8 :=
  cs.flatMap String.utf8EncodeChar

@[simp] theorem encode_nil : encode [] = [] := rfl

@[simp] theorem encode_append (a b : List Char) : encode (a ++ b) = encode a ++ encode b := by
  simp [encode]

@[simp] theorem encode_cons (c : Char) (cs : List Char) :
    encode (c :: cs) = String.utf8EncodeChar c ++ encode cs := by
  simp [encode]

/-- Why a stretch of bytes is no character. -/
inductive Reason where
  | invalidStart
  | invalidContinuation
  | truncated
  deriving DecidableEq

/-- A character whose first bytes have been read. -/
structure Pending where
  /-- the bits read so far -/
  value : Nat
  /-- how many bytes are still missing -/
  missing : Nat
  /-- the least byte that may come next -/
  low : Nat
  /-- the greatest byte that may come next -/
  high : Nat
  /-- the first byte -/
  lead : UInt8
  /-- how many bytes have been read -/
  seen : Nat
  deriving DecidableEq

/-- A stretch of the input. -/
inductive Piece where
  | char (c : Char)
  | faulty (lead : UInt8) (length : Nat) (reason : Reason)
  deriving DecidableEq

/-- What a first byte begins: a whole piece, or a character of several bytes. The bounds of the second
byte leave out overlong forms, surrogates and values above the last code point. -/
def start (b : UInt8) : Piece ⊕ Pending :=
  let n := b.toNat
  if n < 0x80 then .inl (.char (Char.ofNat n))
  else if n < 0xC2 then .inl (.faulty b 1 .invalidStart)
  else if n < 0xE0 then .inr ⟨n - 0xC0, 1, 0x80, 0xBF, b, 1⟩
  else if n = 0xE0 then .inr ⟨0, 2, 0xA0, 0xBF, b, 1⟩
  else if n = 0xED then .inr ⟨0xD, 2, 0x80, 0x9F, b, 1⟩
  else if n < 0xF0 then .inr ⟨n - 0xE0, 2, 0x80, 0xBF, b, 1⟩
  else if n = 0xF0 then .inr ⟨0, 3, 0x90, 0xBF, b, 1⟩
  else if n < 0xF4 then .inr ⟨n - 0xF0, 3, 0x80, 0xBF, b, 1⟩
  else if n = 0xF4 then .inr ⟨4, 3, 0x80, 0x8F, b, 1⟩
  else .inl (.faulty b 1 .invalidStart)

/-- A pending character with one more byte. -/
def Pending.push (p : Pending) (b : UInt8) : Pending :=
  { p with
    value := p.value * 64 + (b.toNat - 0x80), missing := p.missing - 1
    low := 0x80, high := 0xBF, seen := p.seen + 1 }

/-- The bytes as pieces, in order. -/
def pieces : Option Pending → List UInt8 → List Piece
  | none, [] => []
  | some p, [] => [.faulty p.lead p.seen .truncated]
  | none, b :: bs =>
    match start b with
    | .inl piece => piece :: pieces none bs
    | .inr p => pieces (some p) bs
  | some p, b :: bs =>
    if p.low ≤ b.toNat ∧ b.toNat ≤ p.high then
      if p.missing ≤ 1 then .char (Char.ofNat (p.push b).value) :: pieces none bs
      else pieces (some (p.push b)) bs
    else
      .faulty p.lead p.seen .invalidContinuation ::
        match start b with
        | .inl piece => piece :: pieces none bs
        | .inr q => pieces (some q) bs

/-- The character of a piece, a replacement for a faulty one. -/
def Piece.lossy : Piece → Char
  | .char c => c
  | .faulty .. => Symbol.replacement

/-- The text of the bytes, each faulty stretch replaced. -/
def decodeLossy (bs : List UInt8) : List Char :=
  (pieces none bs).map Piece.lossy

/-- The first fault of some bytes and the offset at which it stands. -/
structure Fault where
  lead : UInt8
  offset : Nat
  length : Nat
  reason : Reason
  deriving DecidableEq

/-- Whether three bytes write half of a surrogate pair as if it were a character. -/
def isSurrogate (a b c : UInt8) : Bool :=
  a == 0xED && 0xA0 ≤ b && b ≤ 0xBF && 0x80 ≤ c && c ≤ 0xBF

/-- The half that two bytes behind `0xED` write. -/
def half (b c : UInt8) : Symbol :=
  .ofCode (0xD000 + (b.toNat - 0x80) * 64 + (c.toNat - 0x80))

/-- The symbols of the pieces, which begin at an offset. -/
def gather (offset : Nat) : List Piece → Except Fault (List Symbol)
  | [] => .ok []
  | .char c :: ps => (gather (offset + c.utf8Size) ps).map (.char c :: ·)
  | .faulty lead length reason :: ps =>
    match ps with
    | .faulty b _ _ :: .faulty c _ _ :: rest =>
      if isSurrogate lead b c then (gather (offset + 3) rest).map (half b c :: ·)
      else .error ⟨lead, offset, length, reason⟩
    | _ => .error ⟨lead, offset, length, reason⟩

/-- The first fault of the pieces, which begin at an offset. Here half of a pair is one. -/
def firstFault? (offset : Nat) : List Piece → Option Fault
  | [] => none
  | .char c :: ps => firstFault? (offset + c.utf8Size) ps
  | .faulty lead length reason :: _ => some ⟨lead, offset, length, reason⟩

/-- The symbols of the bytes, or their first fault. -/
def decode (bs : List UInt8) : Except Fault (List Symbol) :=
  gather 0 (pieces none bs)

@[simp] theorem decode_nil : decode [] = .ok [] := rfl

@[simp] theorem decodeLossy_nil : decodeLossy [] = [] := rfl

end SignOn.Utf8
