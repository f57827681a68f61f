import Mathlib.Data.List.TakeDrop
import SignOn.Url.Reader

/-!
Round trips of texts: through their UTF-8 bytes and back, and through escapes and back.
-/

namespace SignOn

namespace Text

/-- What a class of characters takes off a text, if it goes as far as one of its parts. -/
theorem span_of_stop {p : Char → Bool} {cs rest : List Char} (h : ∀ c ∈ cs, p c = true)
    (hstop : ∀ c, rest.head? = some c → p c = false) : (cs ++ rest).span p = (cs, rest) := by
  have htake : rest.takeWhile p = [] ∧ rest.dropWhile p = rest := by
    cases rest with
    | nil => exact ⟨rfl, rfl⟩
    | cons c rest =>
      have hc := hstop c rfl
      simp [hc]
  rw [List.span_eq_takeWhile_dropWhile, List.takeWhile_append_of_pos h, List.dropWhile_append_of_pos h, htake.1,
    htake.2, List.append_nil]

theorem takeWhile_of_stop {p : Char → Bool} {cs rest : List Char} (h : ∀ c ∈ cs, p c = true)
    (hstop : ∀ c, rest.head? = some c → p c = false) : (cs ++ rest).takeWhile p = cs := by
  have hspan := span_of_stop h hstop
  rw [List.span_eq_takeWhile_dropWhile] at hspan
  exact congrArg Prod.fst hspan

theorem dropWhile_of_stop {p : Char → Bool} {cs rest : List Char} (h : ∀ c ∈ cs, p c = true)
    (hstop : ∀ c, rest.head? = some c → p c = false) : (cs ++ rest).dropWhile p = rest := by
  have hspan := span_of_stop h hstop
  rw [List.span_eq_takeWhile_dropWhile] at hspan
  exact congrArg Prod.snd hspan

end Text

namespace Utf8

theorem toNat_byte {n : Nat} (h : n < 256) : (UInt8.ofNat n).toNat = n := by
  rw [UInt8.toNat_ofNat']
  exact Nat.mod_eq_of_lt h

theorem pieces_of_start {b : UInt8} {p : Pending} (h : start b = .inr p) (bs : List UInt8) :
    pieces none (b :: bs) = pieces (some p) bs := by
  rw [pieces, h]

theorem Pending.push_eq (p : Pending) {b : UInt8} {m : Nat} (hb : b.toNat = m + 0x80) :
    p.push b = ⟨p.value * 64 + m, p.missing - 1, 0x80, 0xBF, p.lead, p.seen + 1⟩ := by
  have hv : p.value * 64 + (b.toNat - 0x80) = p.value * 64 + m := by omega
  exact congrArg (fun v => (⟨v, p.missing - 1, 0x80, 0xBF, p.lead, p.seen + 1⟩ : Pending)) hv

/-- The last byte of a character, within the bounds for it. -/
theorem pieces_last (value low high : Nat) (lead : UInt8) (seen : Nat) (bs : List UInt8) {m : Nat} (hm : m < 64)
    (hlow : low ≤ m + 0x80) (hhigh : m + 0x80 ≤ high) :
    pieces (some ⟨value, 1, low, high, lead, seen⟩) (UInt8.ofNat (m + 0x80) :: bs) =
      .char (Char.ofNat (value * 64 + m)) :: pieces none bs := by
  have hb : (UInt8.ofNat (m + 0x80)).toNat = m + 0x80 := toNat_byte (by omega)
  rw [pieces, Pending.push_eq _ hb, hb, if_pos ⟨hlow, hhigh⟩, if_pos (Nat.le_refl 1)]

/-- A byte of a character, within the bounds for it, after which more are missing. -/
theorem pieces_more (value missing low high : Nat) (lead : UInt8) (seen : Nat) (bs : List UInt8) {m : Nat}
    (hm : m < 64) (hlow : low ≤ m + 0x80) (hhigh : m + 0x80 ≤ high) :
    pieces (some ⟨value, missing + 2, low, high, lead, seen⟩) (UInt8.ofNat (m + 0x80) :: bs) =
      pieces (some ⟨value * 64 + m, missing + 1, 0x80, 0xBF, lead, seen + 1⟩) bs := by
  have hb : (UInt8.ofNat (m + 0x80)).toNat = m + 0x80 := toNat_byte (by omega)
  have hmissing : ¬missing + 2 ≤ 1 := by omega
  rw [pieces, Pending.push_eq _ hb, hb, if_pos ⟨hlow, hhigh⟩, if_neg hmissing]
  rfl

theorem start_of_two {v : Nat} (hmin : 0x7F < v) (hmax : v ≤ 0x7FF) :
    start (UInt8.ofNat (v / 64 % 0x20 + 0xC0)) =
      .inr ⟨v / 64, 1, 0x80, 0xBF, UInt8.ofNat (v / 64 % 0x20 + 0xC0), 1⟩ := by
  have hb : (UInt8.ofNat (v / 64 % 0x20 + 0xC0)).toNat = v / 64 + 0xC0 := by
    rw [toNat_byte (by omega)]
    omega
  unfold start
  simp only [hb]
  rw [if_neg (by omega), if_neg (by omega), if_pos (by omega), Nat.add_sub_cancel]

/-- The first of three bytes, and what it leaves to the second. -/
theorem start_of_three {v : Nat} (hmin : 0x7FF < v) (hmax : v ≤ 0xFFFF) (hv : v < 0xD800 ∨ 0xDFFF < v) :
    ∃ low high, start (UInt8.ofNat (v / 4096 % 0x10 + 0xE0)) =
        .inr ⟨v / 4096, 2, low, high, UInt8.ofNat (v / 4096 % 0x10 + 0xE0), 1⟩ ∧
      low ≤ v / 64 % 0x40 + 0x80 ∧ v / 64 % 0x40 + 0x80 ≤ high := by
  have hb : (UInt8.ofNat (v / 4096 % 0x10 + 0xE0)).toNat = v / 4096 + 0xE0 := by
    rw [toNat_byte (by omega)]
    omega
  unfold start
  simp only [hb]
  rw [if_neg (by omega), if_neg (by omega), if_neg (by omega)]
  -- two first bytes have tighter bounds behind them: one against overlong forms, one against surrogates
  by_cases hfirst : v / 4096 = 0
  · rw [if_pos (by omega), hfirst]
    exact ⟨_, _, rfl, by omega, by omega⟩
  · rw [if_neg (by omega)]
    by_cases hsurrogate : v / 4096 = 0xD
    · rw [if_pos (by omega), hsurrogate]
      exact ⟨_, _, rfl, by omega, by omega⟩
    · rw [if_neg (by omega), if_pos (by omega), Nat.add_sub_cancel]
      exact ⟨_, _, rfl, by omega, by omega⟩

/-- The first of four bytes, and what it leaves to the second. -/
theorem start_of_four {v : Nat} (hmin : 0xFFFF < v) (hmax : v < 0x110000) :
    ∃ low high, start (UInt8.ofNat (v / 262144 % 0x08 + 0xF0)) =
        .inr ⟨v / 262144, 3, low, high, UInt8.ofNat (v / 262144 % 0x08 + 0xF0), 1⟩ ∧
      low ≤ v / 4096 % 0x40 + 0x80 ∧ v / 4096 % 0x40 + 0x80 ≤ high := by
  have hb : (UInt8.ofNat (v / 262144 % 0x08 + 0xF0)).toNat = v / 262144 + 0xF0 := by
    rw [toNat_byte (by omega)]
    omega
  unfold start
  simp only [hb]
  rw [if_neg (by omega), if_neg (by omega), if_neg (by omega), if_neg (by omega), if_neg (by omega),
    if_neg (by omega)]
  by_cases hfirst : v / 262144 = 0
  · rw [if_pos (by omega), hfirst]
    exact ⟨_, _, rfl, by omega, by omega⟩
  · rw [if_neg (by omega)]
    by_cases hlast : v / 262144 = 4
    · rw [if_neg (by omega), if_pos (by omega), hlast]
      exact ⟨_, _, rfl, by omega, by omega⟩
    · rw [if_pos (by omega), Nat.add_sub_cancel]
      exact ⟨_, _, rfl, by omega, by omega⟩

/-- The bytes of a character are read as that character. -/
theorem pieces_utf8EncodeChar (c : Char) (bs : List UInt8) :
    pieces none (String.utf8EncodeChar c ++ bs) = .char c :: pieces none bs := by
  have hv : c.val.toNat < 0xD800 ∨ 0xDFFF < c.val.toNat ∧ c.val.toNat < 0x110000 := c.valid
  have hc : ∀ n, n = c.val.toNat → Char.ofNat n = c := by
    rintro _ rfl
    exact Char.ofNat_toNat c
  unfold String.utf8EncodeChar
  generalize c.val.toNat = v at hv hc
  simp only
  -- one case for each number of bytes; `hv` rules out surrogates where there are three
  split
  · have hb : (UInt8.ofNat v).toNat = v := toNat_byte (by omega)
    simp only [List.cons_append, List.nil_append, pieces, start, hb]
    rw [if_pos (by omega)]
    simp only [hc v rfl]
  · split
    · simp only [List.cons_append, List.nil_append]
      rw [pieces_of_start (start_of_two (by omega) (by omega)),
        pieces_last _ _ _ _ _ _ (by omega) (by omega) (by omega), hc _ (by omega)]
    · split
      · obtain ⟨low, high, hs, hlow, hhigh⟩ := start_of_three (v := v) (by omega) (by omega) (by omega)
        simp only [List.cons_append, List.nil_append]
        rw [pieces_of_start hs, pieces_more _ _ _ _ _ _ _ (by omega) hlow hhigh,
          pieces_last _ _ _ _ _ _ (by omega) (by omega) (by omega), hc _ (by omega)]
      · obtain ⟨low, high, hs, hlow, hhigh⟩ := start_of_four (v := v) (by omega) (by omega)
        simp only [List.cons_append, List.nil_append]
        rw [pieces_of_start hs, pieces_more _ _ _ _ _ _ _ (by omega) hlow hhigh,
          pieces_more _ _ _ _ _ _ _ (by omega) (by omega) (by omega),
          pieces_last _ _ _ _ _ _ (by omega) (by omega) (by omega), hc _ (by omega)]

/-- The bytes of a text are read as that text. -/
@[simp] theorem decodeLossy_encode (cs : List Char) : decodeLossy (encode cs) = cs := by
  induction cs with
  | nil => rfl
  | cons c cs ih =>
    rw [decodeLossy] at ih ⊢
    rw [encode_cons, pieces_utf8EncodeChar, List.map_cons, ih, Piece.lossy]

end Utf8

/-- What holds of every ASCII code holds of every ASCII character. -/
theorem Ascii.forall_of_codes {p : Char → Prop} (h : ∀ n < 128, p (Char.ofNat n)) {c : Char} (hc : c.toNat < 128) :
    p c := by
  have hcode := h c.toNat hc
  rwa [Char.ofNat_toNat] at hcode

namespace Percent

theorem isDigit_upper {n : Nat} (h : n < 16) : Hex.isDigit (Hex.upper n) = true := by
  rw [Hex.isDigit, Hex.value?_upper n h, Option.isSome_some]

theorem byte?_upper (b : UInt8) : byte? (Hex.upper (b.toNat / 16)) (Hex.upper (b.toNat % 16)) = some b := by
  have hb : b.toNat < 256 := b.toNat_lt
  have hdigits : b.toNat / 16 * 16 + b.toNat % 16 = b.toNat := by omega
  rw [byte?, Hex.value?_upper _ (by omega), Hex.value?_upper _ (by omega)]
  simp only [hdigits, UInt8.ofNat_toNat]

theorem bytes_escapes (bs : List UInt8) (cs : List Char) : bytes (bs.flatMap escape ++ cs) = bs ++ bytes cs := by
  induction bs with
  | nil => rfl
  | cons b bs ih =>
    have hhead : bytes (escape b ++ (bs.flatMap escape ++ cs)) = b :: bytes (bs.flatMap escape ++ cs) := by
      simp only [escape, Hex.byte, List.cons_append, List.nil_append, bytes, byte?_upper]
    rw [List.flatMap_cons, List.append_assoc, hhead, ih, List.cons_append]

theorem bytes_cons_of_ne {c : Char} (hc : c ≠ '%') (cs : List Char) :
    bytes (c :: cs) = String.utf8EncodeChar c ++ bytes cs := by
  rw [bytes]
  rintro a b rest rfl
  exact absurd rfl hc

/-- Characters that never need an escape are ASCII. -/
theorem toNat_lt_of_unreserved {c : Char} (h : unreserved c = true) : c.toNat < 128 := by
  unfold unreserved Char.isAlphanum Char.isAlpha Char.isUpper Char.isLower Char.isDigit at h
  simp only [Bool.or_eq_true, Bool.and_eq_true, decide_eq_true_eq, beq_iff_eq, ge_iff_le, UInt32.le_iff_toNat_le] at h
  show c.val.toNat < 128
  rcases h with (((((⟨-, h⟩ | ⟨-, h⟩) | ⟨-, h⟩) | rfl) | rfl) | rfl) | rfl
  · exact Nat.lt_of_le_of_lt h (by decide)
  · exact Nat.lt_of_le_of_lt h (by decide)
  · exact Nat.lt_of_le_of_lt h (by decide)
  all_goals decide

section

variable {safe : Char → Bool}

theorem ne_percent_of_safe (hsafe : safe '%' = false) {c : Char} (hc : safe c = true) : c ≠ '%' := by
  rintro rfl
  rw [hsafe] at hc
  cases hc

/-- Undoing the escapes of a text gives its bytes, provided that percent signs are escaped. -/
theorem bytes_encode (hsafe : safe '%' = false) (cs : List Char) : bytes (encode safe cs) = Utf8.encode cs := by
  induction cs with
  | nil => rfl
  | cons c cs ih =>
    rw [encode_cons, Utf8.encode_cons, encodeChar]
    split
    · next hc =>
      rw [List.cons_append, List.nil_append, bytes_cons_of_ne (ne_percent_of_safe hsafe hc), ih]
    · rw [bytes_escapes, ih]

@[simp] theorem decode_encode (hsafe : safe '%' = false) (cs : List Char) : decode (encode safe cs) = cs := by
  rw [decode, bytes_encode hsafe, Utf8.decodeLossy_encode]

theorem encode_inj (hsafe : safe '%' = false) {a b : List Char} : encode safe a = encode safe b ↔ a = b := by
  refine ⟨fun h => ?_, congrArg _⟩
  have hdecoded := congrArg decode h
  rwa [decode_encode hsafe, decode_encode hsafe] at hdecoded

theorem encode_of_safe {cs : List Char} (h : ∀ c ∈ cs, safe c = true) : encode safe cs = cs := by
  induction cs with
  | nil => rfl
  | cons c cs ih =>
    rw [encode_cons, encodeChar, if_pos (h c (List.mem_cons_self ..)), List.singleton_append,
      ih fun x hx => h x (List.mem_cons_of_mem _ hx)]

/-- Only a text of safe characters itself has it for its escaped form. -/
theorem encode_eq_iff (hsafe : safe '%' = false) {a b : List Char} (hb : ∀ c ∈ b, safe c = true) :
    encode safe a = b ↔ a = b := by
  have h := encode_inj hsafe (a := a) (b := b)
  rwa [encode_of_safe hb] at h

theorem of_mem_encode {cs : List Char} {x : Char} (h : x ∈ encode safe cs) :
    (safe x = true ∧ x ∈ cs) ∨ x = '%' ∨ ∃ n < 16, x = Hex.upper n := by
  obtain ⟨c, hc, hx⟩ := List.mem_flatMap.1 h
  rw [encodeChar] at hx
  split at hx
  · next hsafe =>
    obtain rfl := List.mem_singleton.1 hx
    exact .inl ⟨hsafe, hc⟩
  · obtain ⟨b, -, hb⟩ := List.mem_flatMap.1 hx
    have hlt : b.toNat < 256 := b.toNat_lt
    simp only [escape, Hex.byte, List.mem_cons, List.not_mem_nil, or_false] at hb
    rcases hb with rfl | rfl | rfl
    · exact .inr (.inl rfl)
    · exact .inr (.inr ⟨_, by omega, rfl⟩)
    · exact .inr (.inr ⟨_, by omega, rfl⟩)

variable {kept : Char → Bool}

theorem encodeAround_escapes (bs : List UInt8) (cs : List Char) :
    encodeAround kept (bs.flatMap escape ++ cs) = bs.flatMap escape ++ encodeAround kept cs := by
  induction bs with
  | nil => rfl
  | cons b bs ih =>
    have hb : b.toNat < 256 := b.toNat_lt
    have hdigits : Hex.isDigit (Hex.upper (b.toNat / 16)) = true ∧ Hex.isDigit (Hex.upper (b.toNat % 16)) = true :=
      ⟨isDigit_upper (by omega), isDigit_upper (by omega)⟩
    have hhead : encodeAround kept (escape b ++ (bs.flatMap escape ++ cs)) =
        escape b ++ encodeAround kept (bs.flatMap escape ++ cs) := by
      simp only [escape, Hex.byte, List.cons_append, List.nil_append, encodeAround, if_pos hdigits]
    rw [List.flatMap_cons, List.append_assoc, hhead, ih, List.append_assoc]

theorem encodeAround_cons_of_ne {c : Char} (hc : c ≠ '%') (cs : List Char) :
    encodeAround kept (c :: cs) = encodeChar kept c ++ encodeAround kept cs := by
  rw [encodeAround]
  rintro a b rest rfl
  exact absurd rfl hc

/-- A text that is escaped already stays as it is where all its safe characters are kept. -/
theorem encodeAround_encode (hsafe : safe '%' = false) (hkept : ∀ c, safe c = true → kept c = true) (cs : List Char) :
    encodeAround kept (encode safe cs) = encode safe cs := by
  induction cs with
  | nil => rfl
  | cons c cs ih =>
    rw [encode_cons, encodeChar]
    split
    · next hc =>
      rw [List.cons_append, List.nil_append, encodeAround_cons_of_ne (ne_percent_of_safe hsafe hc), ih, encodeChar,
        if_pos (hkept c hc)]
      rfl
    · rw [encodeAround_escapes, ih]

end

end Percent

end SignOn
