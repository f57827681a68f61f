import SignOn.Proofs.Endpoint
import SignOn.Proofs.Segments
import SignOn.Text.Form
import SignOn.Url.Derived

/-!
Round trips of form text. What is written is read back, a parameter that is put in takes the place of all its values and
of nothing else, and quoting a form once more for an address does not change what it says.
-/

namespace SignOn

namespace Text

variable {sep : Char}

/-- A safe character stops a text at the same place before and after the rest is escaped. -/
theorem takeWhile_encode {safe : Char → Bool} (hsep : safe sep = true) (hhex : sep ≠ '%' ∧ ∀ n < 16, sep ≠ Hex.upper n)
    (cs : List Char) :
    (Percent.encode safe cs).takeWhile (· != sep) = Percent.encode safe (cs.takeWhile (· != sep)) ∧
      (Percent.encode safe cs).dropWhile (· != sep) = Percent.encode safe (cs.dropWhile (· != sep)) := by
  induction cs with
  | nil => exact ⟨rfl, rfl⟩
  | cons c cs ih =>
    by_cases hc : c = sep
    · subst hc
      simp [Percent.encodeChar, hsep]
    · have hone : ∀ x ∈ Percent.encodeChar safe c, (x != sep) = true := by
        intro x hx
        have hx' : x ∈ Percent.encode safe [c] := by simpa using hx
        rw [bne_iff_ne]
        rcases Percent.of_mem_encode hx' with ⟨-, hm⟩ | rfl | ⟨n, hn, rfl⟩
        · rwa [List.mem_singleton.1 hm]
        · exact hhex.1.symm
        · exact (hhex.2 n hn).symm
      have hc' : (c != sep) = true := bne_iff_ne.2 hc
      rw [Percent.encode_cons, List.takeWhile_append_of_pos hone, List.dropWhile_append_of_pos hone, ih.1, ih.2]
      simp only [List.takeWhile_cons, List.dropWhile_cons, hc', if_true, Percent.encode_cons, and_self]

end Text

namespace Percent

variable {kept : Char → Bool}

/-- Where percent signs and digits are kept, there is no telling escapes from the rest. -/
theorem encodeAround_eq_encode (hpercent : kept '%' = true) (hdigit : ∀ c, Hex.isDigit c = true → kept c = true)
    (cs : List Char) : encodeAround kept cs = encode kept cs := by
  induction cs using encodeAround.induct with
  | case1 => rfl
  | case2 a b cs h ih =>
    rw [encodeAround, if_pos h, ih]
    simp [encodeChar, hpercent, hdigit a h.1, hdigit b h.2]
  | case3 a b cs h ih => rw [encodeAround, if_neg h, ih, encode_cons _ '%']
  | case4 c cs hshort ih => rw [encodeAround.eq_3 kept c cs hshort, ih, encode_cons]

/-- What comes of quoting is kept. -/
theorem kept_of_mem_encodeAround (hpercent : kept '%' = true) (hdigit : ∀ c, Hex.isDigit c = true → kept c = true)
    {cs : List Char} {c : Char} (h : c ∈ encodeAround kept cs) : kept c = true := by
  rw [encodeAround_eq_encode hpercent hdigit] at h
  rcases of_mem_encode h with ⟨hc, -⟩ | rfl | ⟨n, hn, rfl⟩
  · exact hc
  · exact hpercent
  · exact hdigit _ (isDigit_upper hn)

/-- Hexadecimal digits never need an escape. -/
theorem unreserved_of_isDigit {c : Char} (h : Hex.isDigit c = true) : unreserved c = true := by
  have hcodes : ∀ n < 128, Hex.isDigit (Char.ofNat n) = true → unreserved (Char.ofNat n) = true := by decide
  have hascii : c.toNat < 128 := by
    have hle : ∀ top : Char, c ≤ top → top.toNat < 128 → c.toNat < 128 := fun top hc htop =>
      Nat.lt_of_le_of_lt (UInt32.le_iff_toNat_le.1 hc) htop
    unfold Hex.isDigit Hex.value? at h
    split at h
    · next hc => exact hle '9' hc.2 (by decide)
    · split at h
      · next hc => exact hle 'F' hc.2 (by decide)
      · split at h
        · next hc => exact hle 'f' hc.2 (by decide)
        · cases h
  exact Ascii.forall_of_codes (p := fun c => Hex.isDigit c = true → unreserved c = true) hcodes hascii h

theorem encodeAround_of_kept {cs : List Char} (h : ∀ c ∈ cs, kept c = true) : encodeAround kept cs = cs := by
  induction cs using encodeAround.induct with
  | case1 => rfl
  | case2 a b cs hdigits ih =>
    rw [encodeAround, if_pos hdigits, ih fun c hc => h c (by simp [hc])]
  | case3 a b cs hdigits ih =>
    rw [encodeAround, if_neg hdigits, encodeChar, if_pos (h '%' (by simp)),
      ih fun c hc => h c (List.mem_cons_of_mem _ hc), List.singleton_append]
  | case4 c cs hshort ih =>
    rw [encodeAround.eq_3 kept c cs hshort, encodeChar, if_pos (h c (by simp)),
      ih fun x hx => h x (List.mem_cons_of_mem _ hx), List.singleton_append]

/-- Whether a percent sign in front of a text begins no escape. -/
def Lone (cs : List Char) : Prop :=
  ∀ a b rest, cs = a :: b :: rest → ¬(Hex.isDigit a ∧ Hex.isDigit b)

theorem bytes_percent_of_lone {cs : List Char} (h : Lone cs) :
    bytes ('%' :: cs) = String.utf8EncodeChar '%' ++ bytes cs := by
  match cs with
  | [] | [a] => rfl
  | a :: b :: rest =>
    have hbyte : byte? a b = none := by
      have hdigits := h a b rest rfl
      unfold byte?
      split
      · next ha hb => exact absurd ⟨by simp [Hex.isDigit, ha], by simp [Hex.isDigit, hb]⟩ hdigits
      · rfl
    rw [bytes, hbyte]

/-- A character as a form means it. -/
def spaced (c : Char) : Char :=
  if c = '+' then ' ' else c

theorem spaced_of_ne {c : Char} (h : c ≠ '+') : spaced c = c := if_neg h

theorem spaced_of_isDigit {c : Char} (h : Hex.isDigit (spaced c) = true) : spaced c = c := by
  unfold spaced at h ⊢
  split
  · next hplus =>
    rw [if_pos hplus] at h
    exact absurd h (by decide)
  · rfl

theorem Lone.spaced {cs : List Char} (h : Lone cs) : Lone (cs.map spaced) := by
  intro a b rest he
  match cs, he with
  | x :: y :: cs, he =>
    obtain ⟨rfl, rfl, -⟩ : Percent.spaced x = a ∧ Percent.spaced y = b ∧ cs.map Percent.spaced = rest := by
      simpa using he
    rintro ⟨hx, hy⟩
    rw [spaced_of_isDigit hx] at hx
    rw [spaced_of_isDigit hy] at hy
    exact h x y cs rfl ⟨hx, hy⟩

/-- What is escaped begins with a percent sign. -/
theorem encodeChar_of_unkept {c : Char} (h : ¬kept c = true) : ∃ more, encodeChar kept c = '%' :: more := by
  have hsize := String.length_utf8EncodeChar c
  have hpos := c.utf8Size_pos
  rw [encodeChar, if_neg h]
  cases hbytes : String.utf8EncodeChar c with
  | nil =>
    rw [hbytes, List.length_nil] at hsize
    omega
  | cons b bs => exact ⟨_, rfl⟩

/-- Only a text that stays as it is has no percent sign once it is escaped. -/
theorem encode_of_no_percent {cs : List Char} (h : '%' ∉ encode kept cs) : encode kept cs = cs := by
  refine encode_of_safe fun c hc => Decidable.byContradiction fun hk => h ?_
  obtain ⟨more, hmore⟩ := encodeChar_of_unkept hk
  exact List.mem_flatMap.2 ⟨c, hc, by simp [hmore]⟩

theorem isEmpty_encode (cs : List Char) : (encode kept cs).isEmpty = cs.isEmpty := by
  by_cases h : '%' ∈ encode kept cs
  · have hne : cs ≠ [] := by
      rintro rfl
      cases h
    rw [List.isEmpty_eq_false_iff.2 hne, List.isEmpty_eq_false_iff.2 (List.ne_nil_of_mem h)]
  · rw [encode_of_no_percent h]

/-- A digit in front of an escaped text stands there in the text itself. -/
theorem of_encode_cons {x a : Char} {cs rest : List Char} (he : encode kept (x :: cs) = a :: rest)
    (ha : Hex.isDigit a = true) : x = a ∧ encode kept cs = rest := by
  rw [encode_cons] at he
  by_cases hx : kept x = true
  · rw [encodeChar, if_pos hx] at he
    exact List.cons.inj he
  · obtain ⟨more, hmore⟩ := encodeChar_of_unkept hx
    rw [hmore] at he
    rw [← (List.cons.inj he).1] at ha
    exact absurd ha (by decide)

theorem Lone.encode {cs : List Char} (h : Lone cs) : Lone (encode kept cs) := by
  rintro a b rest he ⟨ha, hb⟩
  cases cs with
  | nil => cases he
  | cons x cs =>
    obtain ⟨rfl, hrest⟩ := of_encode_cons he ha
    cases cs with
    | nil => cases hrest
    | cons y cs =>
      obtain ⟨rfl, -⟩ := of_encode_cons hrest hb
      exact h x y cs rfl ⟨ha, hb⟩

theorem spaced_escapes (bs : List UInt8) : (bs.flatMap escape).map spaced = bs.flatMap escape := by
  have hdigits : ∀ n < 16, spaced (Hex.upper n) = Hex.upper n := by decide
  have hpercent : spaced '%' = '%' := by decide
  rw [List.map_flatMap]
  congr 1
  funext b
  have hb : b.toNat < 256 := b.toNat_lt
  simp only [escape, Hex.byte, List.map_cons, List.map_nil, hpercent, hdigits (b.toNat / 16) (by omega),
    hdigits (b.toNat % 16) (by omega)]

/-- Escaping once more what is not kept leaves the bytes as they are, if escapes and plus signs are kept. -/
theorem bytes_spaced_encode (hpercent : kept '%' = true) (hdigit : ∀ c, Hex.isDigit c = true → kept c = true)
    (hplus : kept '+' = true) (cs : List Char) : bytes ((encode kept cs).map spaced) = bytes (cs.map spaced) := by
  have hone : encodeChar kept '%' = ['%'] := by simp [encodeChar, hpercent]
  have hself : spaced '%' = '%' := by decide
  have hlone : ∀ cs, Lone cs → bytes ((encode kept cs).map spaced) = bytes (cs.map spaced) →
      bytes ((encode kept ('%' :: cs)).map spaced) = bytes (('%' :: cs).map spaced) := by
    intro cs hl ih
    rw [encode_cons, hone, List.singleton_append, List.map_cons, List.map_cons, hself,
      bytes_percent_of_lone hl.encode.spaced, bytes_percent_of_lone hl.spaced, ih]
  induction cs using encodeAround.induct with
  | case1 => rfl
  | case2 a b cs h ih =>
    have hkeep : ∀ c, Hex.isDigit c = true → encodeChar kept c = [c] ∧ spaced c = c := by
      intro c hc
      refine ⟨by simp [encodeChar, hdigit c hc], spaced_of_ne ?_⟩
      rintro rfl
      exact absurd hc (by decide)
    obtain ⟨ha, ha'⟩ := hkeep a h.1
    obtain ⟨hb, hb'⟩ := hkeep b h.2
    obtain ⟨m, hm⟩ := Option.isSome_iff_exists.1 h.1
    obtain ⟨n, hn⟩ := Option.isSome_iff_exists.1 h.2
    simp only [encode_cons, hone, ha, hb, List.singleton_append, List.map_cons, hself, ha', hb', bytes, byte?, hm, hn, ih]
  | case3 a b cs h ih =>
    refine hlone _ ?_ ih
    rintro x y rest he
    obtain ⟨rfl, rfl, rfl⟩ : a = x ∧ b = y ∧ cs = rest := by simpa using he
    exact h
  | case4 c cs hshort ih =>
    by_cases hc : c = '%'
    · subst hc
      exact hlone _ (fun a b rest he => (hshort a b rest rfl he).elim) ih
    · by_cases hk : kept c = true
      · have hne : spaced c ≠ '%' := by
          unfold spaced
          split
          · decide
          · exact hc
        rw [encode_cons, encodeChar, if_pos hk, List.singleton_append, List.map_cons, List.map_cons,
          bytes_cons_of_ne hne, bytes_cons_of_ne hne, ih]
      · have hne : spaced c = c := spaced_of_ne fun he => hk (he ▸ hplus)
        rw [encode_cons, encodeChar, if_neg hk, List.map_append, spaced_escapes, bytes_escapes, List.map_cons, hne,
          bytes_cons_of_ne hc, ih]

end Percent

namespace Table

theorem nodup_put {α : Type} {t : Table α} (h : (t.map (·.1)).Nodup) (name : String) (value : α) :
    ((t.put name value).map (·.1)).Nodup := by
  rw [Table.names_put]
  split
  · exact h
  · next hnew =>
    refine List.nodup_append.2 ⟨h, by simp, ?_⟩
    rintro a ha b hb rfl
    obtain rfl := List.mem_singleton.1 hb
    obtain ⟨row, hrow, rfl⟩ := List.mem_map.1 ha
    exact hnew (List.any_eq_true.2 ⟨row, hrow, by simp⟩)

end Table

namespace Form

theorem decodePart_eq (cs : List Char) : decodePart cs = String.ofList (Percent.decode (cs.map Percent.spaced)) := rfl

section

variable {kept : Char → Bool}

/-- Quoting a form once more, for an address, does not change what it says. -/
theorem decode_encodeAround (hpercent : kept '%' = true) (hdigit : ∀ c, Hex.isDigit c = true → kept c = true)
    (hmarks : kept '+' = true ∧ kept '&' = true ∧ kept '=' = true) (cs : List Char) :
    decode (Percent.encodeAround kept cs) = decode cs := by
  obtain ⟨hplus, hand, hequals⟩ := hmarks
  have hpart : ∀ part, decodePart (Percent.encode kept part) = decodePart part := by
    intro part
    rw [decodePart_eq, decodePart_eq, Percent.decode, Percent.decode,
      Percent.bytes_spaced_encode hpercent hdigit hplus]
  have hpair : ∀ piece, decodePair (Percent.encode kept piece) = decodePair piece := by
    intro piece
    have hcut := Text.takeWhile_encode hequals (by decide) piece
    have hbehind : (Percent.encode kept (piece.dropWhile (· != '='))).drop 1 =
        Percent.encode kept ((piece.dropWhile (· != '=')).drop 1) := by
      have hstop := List.head?_dropWhile_not (· != '=') piece
      cases hdrop : piece.dropWhile (· != '=') with
      | nil => rfl
      | cons c rest =>
        rw [hdrop] at hstop
        obtain rfl : c = '=' := by simpa using hstop
        simp [Percent.encodeChar, hequals]
    rw [decodePair, hcut.1, hcut.2, hbehind, hpart, hpart, decodePair]
  have hpieces : Text.cut '&' (Percent.encode kept cs) = (Text.cut '&' cs).map (Percent.encode kept) :=
    Text.cut_encode hand (by decide) cs
  rw [Percent.encodeAround_eq_encode hpercent hdigit, decode, hpieces, List.filter_map, List.map_map, decode]
  simp only [Function.comp_def, hpair, Percent.isEmpty_encode]

end

/-- The characters of form text are marks, percent signs and those that never need an escape. -/
theorem of_mem_encodePart {s : String} {c : Char} (h : c ∈ encodePart s) :
    Percent.unreserved c = true ∨ c = '+' ∨ c = '%' := by
  have hdigits : ∀ n < 16, Percent.unreserved (Hex.upper n) = true := by decide
  obtain ⟨x, -, hc⟩ := List.mem_flatMap.1 h
  split at hc
  · exact .inr (.inl (List.mem_singleton.1 hc))
  · have hone : c ∈ Percent.encode Percent.unreserved [x] := by simpa using hc
    rcases Percent.of_mem_encode hone with ⟨hsafe, -⟩ | rfl | ⟨n, hn, rfl⟩
    · exact .inl hsafe
    · exact .inr (.inr rfl)
    · exact .inl (hdigits n hn)

theorem fits_of_mem_encodePart {s : String} {c : Char} (h : c ∈ encodePart s) :
    Url.keptInQuery c = true ∧ c ≠ '&' ∧ c ≠ '=' := by
  have hascii : ∀ n < 128, Percent.unreserved (Char.ofNat n) = true →
      Url.keptInQuery (Char.ofNat n) = true ∧ Char.ofNat n ≠ '&' ∧ Char.ofNat n ≠ '=' := by decide
  rcases of_mem_encodePart h with hc | rfl | rfl
  · exact Ascii.forall_of_codes
      (p := fun c => Percent.unreserved c = true → Url.keptInQuery c = true ∧ c ≠ '&' ∧ c ≠ '=') hascii
      (Percent.toNat_lt_of_unreserved hc) hc
  · decide
  · decide

@[simp] theorem decodePart_encodePart (s : String) : decodePart (encodePart s) = s := by
  -- with spaces for the plus signs, it is the text with all but spaces and a few others escaped
  have hspaced : (encodePart s).map Percent.spaced =
      Percent.encode (fun c => Percent.unreserved c || c == ' ') s.toList := by
    rw [encodePart, List.map_flatMap]
    congr 1
    funext c
    by_cases hspace : c = ' '
    · subst hspace
      rfl
    · have hsafe : (Percent.unreserved c || c == ' ') = Percent.unreserved c := by simp [hspace]
      rw [if_neg hspace, Percent.encodeChar, Percent.encodeChar, hsafe]
      split
      · next hc =>
        have hne : c ≠ '+' := by
          rintro rfl
          exact absurd hc (by decide)
        rw [List.map_cons, List.map_nil, Percent.spaced_of_ne hne]
      · exact Percent.spaced_escapes _
  rw [decodePart_eq, hspaced, Percent.decode_encode (by decide), String.ofList_toList]

/-- A name and its value as they are written. -/
def encodePair (p : String × String) : List Char :=
  encodePart p.1 ++ '=' :: encodePart p.2

theorem encode_eq (pairs : Table String) : encode pairs = ['&'].intercalate (pairs.map encodePair) := rfl

@[simp] theorem decodePair_encodePair (p : String × String) : decodePair (encodePair p) = p := by
  have hname : ∀ c ∈ encodePart p.1, (c != '=') = true := fun c hc => bne_iff_ne.2 (fits_of_mem_encodePart hc).2.2
  have hstop : ∀ c, ('=' :: encodePart p.2).head? = some c → (c != '=') = false := by
    intro c hc
    obtain rfl := Option.some.inj hc
    rfl
  rw [decodePair, encodePair, Text.takeWhile_of_stop hname hstop, Text.dropWhile_of_stop hname hstop, List.drop_one,
    List.tail_cons, decodePart_encodePart, decodePart_encodePart]

theorem fits_of_mem_encodePair {p : String × String} {c : Char} (h : c ∈ encodePair p) :
    Url.keptInQuery c = true ∧ c ≠ '&' := by
  rw [encodePair, List.mem_append, List.mem_cons] at h
  rcases h with h | rfl | h
  · exact ⟨(fits_of_mem_encodePart h).1, (fits_of_mem_encodePart h).2.1⟩
  · decide
  · exact ⟨(fits_of_mem_encodePart h).1, (fits_of_mem_encodePart h).2.1⟩

/-- Form text tells the pairs that it was written for. -/
@[simp] theorem decode_encode (pairs : Table String) : decode (encode pairs) = pairs := by
  have hand : ∀ part ∈ pairs.map encodePair, '&' ∉ part :=
    List.forall_mem_map.2 fun p _ hm => (fits_of_mem_encodePair hm).2 rfl
  cases pairs with
  | nil => rfl
  | cons p pairs =>
    have hcut : Text.cut '&' (encode (p :: pairs)) = (p :: pairs).map encodePair :=
      Text.cut_intercalate (by simp) hand
    have hfull : ((p :: pairs).map encodePair).filter (!·.isEmpty) = (p :: pairs).map encodePair :=
      List.filter_eq_self.2 (List.forall_mem_map.2 fun q _ => by simp [encodePair])
    rw [decode, hcut, hfull, List.map_map]
    exact List.map_id'' decodePair_encodePair _

/-- Form text stays as it is in the query of an address. -/
theorem keptInQuery_of_mem_encode {pairs : Table String} {c : Char} (h : c ∈ encode pairs) :
    Url.keptInQuery c = true := by
  rw [encode_eq] at h
  rcases of_mem_intercalate h with hsep | ⟨part, hpart, hc⟩
  · obtain rfl := List.mem_singleton.1 hsep
    decide
  · obtain ⟨p, -, rfl⟩ := List.mem_map.1 hpart
    exact (fits_of_mem_encodePair hc).1

/-- The values of a name, in order. -/
def valuesOf (pairs : Table String) (name : String) : List String :=
  (pairs.filter (·.1 == name)).map (·.2)

theorem valuesOf_append (a b : Table String) (name : String) :
    valuesOf (a ++ b) name = valuesOf a name ++ valuesOf b name := by
  simp [valuesOf]

theorem valuesOf_cons (p : String × String) (pairs : Table String) (name : String) :
    valuesOf (p :: pairs) name = if p.1 = name then p.2 :: valuesOf pairs name else valuesOf pairs name := by
  by_cases h : p.1 = name <;> simp [valuesOf, h]

/-- Groups with one more pair. -/
def add (groups : Table (List String)) (p : String × String) : Table (List String) :=
  groups.put p.1 ((groups.get? p.1).getD [] ++ [p.2])

theorem group_eq (pairs : Table String) : group pairs = pairs.foldl add [] := rfl

theorem get?_foldl_add (pairs : Table String) (groups : Table (List String)) (name : String) :
    (Table.get? (pairs.foldl add groups) name).getD [] = (groups.get? name).getD [] ++ valuesOf pairs name := by
  induction pairs generalizing groups with
  | nil => simp [valuesOf]
  | cons p pairs ih =>
    rw [List.foldl_cons, ih, valuesOf_cons, add]
    by_cases h : p.1 = name
    · rw [if_pos h, h, Table.get?_put_self]
      simp
    · rw [if_neg h, Table.get?_put_of_ne _ _ (Ne.symm h)]

theorem nodup_foldl_add (pairs : Table String) {groups : Table (List String)} (h : (groups.map (·.1)).Nodup) :
    ((pairs.foldl add groups).map (·.1)).Nodup := by
  induction pairs generalizing groups with
  | nil => exact h
  | cons p pairs ih => exact ih (Table.nodup_put h _ _)

/-- A group has the values of its name. -/
theorem get?_group (pairs : Table String) (name : String) :
    ((group pairs).get? name).getD [] = valuesOf pairs name := by
  rw [group_eq, get?_foldl_add, Table.get?_nil, Option.getD_none, List.nil_append]

/-- Every name has one group. -/
theorem nodup_group (pairs : Table String) : ((group pairs).map (·.1)).Nodup := by
  rw [group_eq]
  exact nodup_foldl_add pairs List.nodup_nil

theorem valuesOf_single (values : List String) (owner name : String) :
    valuesOf (values.map fun value => (owner, value)) name = if owner = name then values else [] := by
  rw [valuesOf, List.filter_map, List.map_map]
  split
  · next h => simp [h, Function.comp_def]
  · next h => simp [h, Function.comp_def]

theorem valuesOf_ungroup {groups : Table (List String)} (h : (groups.map (·.1)).Nodup) (name : String) :
    valuesOf (ungroup groups) name = (groups.get? name).getD [] := by
  induction groups with
  | nil => rfl
  | cons g groups ih =>
    obtain ⟨hg, hnodup⟩ := List.nodup_cons.1 h
    have hsplit : ungroup (g :: groups) = g.2.map (fun value => (g.1, value)) ++ ungroup groups := rfl
    rw [hsplit, valuesOf_append, valuesOf_single, ih hnodup, Table.get?_cons]
    split
    · next hname =>
      have hnone : Table.get? groups name = none := by
        rw [← Option.not_isSome_iff_eq_none]
        intro hsome
        obtain ⟨value, hvalue⟩ := Option.isSome_iff_exists.1 hsome
        exact hg (List.mem_map.2 ⟨_, Table.mem_of_get? hvalue, hname.symm⟩)
      rw [hnone, Option.getD_none, List.append_nil, Option.getD_some]
    · rw [List.nil_append]

/-- A parameter that is put in takes the place of all its values, and of nothing else. -/
theorem valuesOf_put (pairs : Table String) (name value other : String) :
    valuesOf (ungroup ((group pairs).put name [value])) other =
      if other = name then [value] else valuesOf pairs other := by
  rw [valuesOf_ungroup (Table.nodup_put (nodup_group pairs) name [value])]
  split
  · next h => rw [h, Table.get?_put_self, Option.getD_some]
  · next h => rw [Table.get?_put_of_ne _ _ h, get?_group]

end Form

end SignOn
