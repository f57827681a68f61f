/-!
Texts and surrogates. Two units of sixteen bits may stand for one character together; alone each is only a half. A text
is a row of characters as a rule, but what is read from escapes may hold halves that stand alone. Such a text can be kept
and compared, but no bytes stand for it.
-/

namespace SignOn

namespace Surrogate

/-- Whether a unit is the first of a pair. -/
def isHigh (n : Nat) : Bool :=
  0xD800 ≤ n && n < 0xDC00

/-- Whether a unit is the second of a pair. -/
def isLow (n : Nat) : Bool :=
  0xDC00 ≤ n && n < 0xE000

/-- The character of a pair. -/
def join (high low : Nat) : Char :=
  Char.ofNat (0x10000 + (high - 0xD800) * 0x400 + (low - 0xDC00))

example : join 0xD83D 0xDE00 = '😀' := by decide

end Surrogate

/-- A half of a pair, counted from the first of them. -/
abbrev Half := Fin 0x800

def Half.code (h : Half) : Nat :=
  0xD800 + h.val

/-- What a text is made of. -/
inductive Symbol where
  | char (c : Char)
  | half (h : Half)
  deriving DecidableEq

namespace Symbol

/-- The symbol of a code. -/
def ofCode (n : Nat) : Symbol :=
  if h : 0xD800 ≤ n ∧ n < 0xE000 then .half ⟨n - 0xD800, by omega⟩ else .char (Char.ofNat n)

def code : Symbol → Nat
  | .char c => c.toNat
  | .half h => h.code

def replacement : Char := '\ufffd'

/-- The character that is put for a symbol, where characters have to be. -/
def shown : Symbol → Char
  | .char c => c
  | .half _ => replacement

theorem ofCode_toNat (c : Char) : ofCode c.toNat = .char c := by
  have hc : c.toNat < 0xD800 ∨ 0xDFFF < c.toNat ∧ c.toNat < 0x110000 := c.valid
  rw [ofCode, dif_neg (by omega), Char.ofNat_toNat]

/-- The characters of some symbols, if none of them is a half. -/
def chars? : List Symbol → Option (List Char)
  | [] => some []
  | .char c :: ss => (chars? ss).map (c :: ·)
  | .half _ :: _ => none

/-- The halves among some symbols that begin at an offset, by their offsets. -/
def halves (offset : Nat) : List Symbol → List (Nat × Half)
  | [] => []
  | .char _ :: ss => halves (offset + 1) ss
  | .half h :: ss => (offset, h) :: halves (offset + 1) ss

@[simp] theorem map_shown_chars (cs : List Char) : (cs.map char).map shown = cs := by
  rw [List.map_map]
  exact List.map_id' cs

@[simp] theorem chars?_chars (cs : List Char) : chars? (cs.map char) = some cs := by
  induction cs with
  | nil => rfl
  | cons c cs ih => rw [List.map_cons, chars?, ih, Option.map_some]

@[simp] theorem halves_chars (cs : List Char) (offset : Nat) : halves offset (cs.map char) = [] := by
  induction cs generalizing offset with
  | nil => rfl
  | cons c cs ih => rw [List.map_cons, halves, ih]

end Symbol

/-- A row of characters, or one that halves break into several. -/
inductive Text where
  | whole (s : String)
  | torn (front : String) (half : Half) (back : Text)
  deriving DecidableEq

namespace Text

instance : Coe String Text := ⟨whole⟩

attribute [coe] whole

def isWhole : Text → Bool
  | .whole _ => true
  | .torn .. => false

/-- The characters of a text that holds no halves. -/
def whole? : Text → Option String
  | .whole s => some s
  | .torn .. => none

def symbols : Text → List Symbol
  | .whole s => s.toList.map .char
  | .torn front half back => front.toList.map .char ++ .half half :: back.symbols

/-- The text of some symbols behind some characters, which stand last first. -/
def gather (front : List Char) : List Symbol → Text
  | [] => .whole (String.ofList front.reverse)
  | .char c :: ss => gather (c :: front) ss
  | .half h :: ss => .torn (String.ofList front.reverse) h (gather [] ss)

def ofSymbols (ss : List Symbol) : Text :=
  gather [] ss

def append : Text → Text → Text
  | .whole s, .whole t => .whole (s ++ t)
  | .whole s, .torn front half back => .torn (s ++ front) half back
  | .torn front half back, t => .torn front half (back.append t)

instance : Append Text := ⟨append⟩

/-- Texts one behind the other, with a separator between them. -/
def join (sep : String) : List Text → Text
  | [] => .whole ""
  | [t] => t
  | t :: u :: rest => t ++ (sep ++ join sep (u :: rest))

@[simp] theorem isWhole_whole (s : String) : isWhole s = true := rfl

@[simp] theorem whole?_whole (s : String) : whole? s = some s := rfl

@[simp] theorem whole_append (s t : String) : (whole s ++ whole t : Text) = whole (s ++ t) := rfl

theorem isWhole_iff {t : Text} : t.isWhole = true ↔ ∃ s : String, t = s := by
  cases t <;> simp [isWhole]

theorem gather_chars (front cs : List Char) : gather front (cs.map .char) = .whole (String.ofList (front.reverse ++ cs)) := by
  induction cs generalizing front with
  | nil => rw [List.map_nil, gather, List.append_nil]
  | cons c cs ih => rw [List.map_cons, gather, ih, List.reverse_cons, List.append_assoc, List.singleton_append]

@[simp] theorem ofSymbols_chars (cs : List Char) : ofSymbols (cs.map .char) = .whole (String.ofList cs) :=
  gather_chars [] cs

theorem symbols_gather (front : List Char) (ss : List Symbol) :
    (gather front ss).symbols = front.reverse.map .char ++ ss := by
  induction ss generalizing front with
  | nil => simp [gather, symbols]
  | cons s ss ih =>
    cases s with
    | char c => simp [gather, ih]
    | half h => simp [gather, symbols, ih]

/-- A text is made of the symbols that it is put together from. -/
@[simp] theorem symbols_ofSymbols (ss : List Symbol) : (ofSymbols ss).symbols = ss :=
  symbols_gather [] ss

@[simp] theorem symbols_whole (s : String) : symbols s = s.toList.map .char := rfl

@[simp] theorem symbols_append (s t : Text) : (s ++ t).symbols = s.symbols ++ t.symbols := by
  induction s with
  | whole s =>
    cases t with
    | whole t => simp
    | torn front half back => change symbols (.torn (s ++ front) half back) = _; simp [symbols]
  | torn front half back ih =>
    change symbols (.torn front half (back ++ t)) = _
    simp [symbols, ih]

end Text

end SignOn
