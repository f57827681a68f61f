import Mathlib.Algebra.GroupWithZero.Nat
import SignOn.Proofs.Grammar
import SignOn.Proofs.Rereading

/-!
The spellings of a list of texts. Inside quotes a character may stand for itself or be escaped, and white space may stand
around items. Whichever spelling is chosen, the list is read from it; and no list is read from a text that is shorter than
its items.
-/

namespace SignOn.Json

/-- Whether some characters are four hexadecimal digits, of either case, that denote a unit of sixteen bits. -/
def IsUnit (digits : List Char) (n : Nat) : Prop :=
  digits.length = 4 ∧ Hex.number? digits = some n

/-- The letters of the short escapes, with the characters that they stand for. -/
def letters : List (Char × Char) :=
  [('"', '"'), ('\\', '\\'), ('/', '/'), ('b', '\x08'), ('f', '\x0c'), ('n', '\n'), ('r', '\r'), ('t', '\t')]

/-- Whether a character may be spelled so inside quotes. -/
inductive Spelling : Char → List Char → Prop
  | itself {c : Char} (hc : 0x20 ≤ c.toNat) (hquote : c ≠ '"') (hslash : c ≠ '\\') : Spelling c [c]
  | letter {e c : Char} (h : (e, c) ∈ letters) : Spelling c ['\\', e]
  | unit {c : Char} {digits : List Char} (h : IsUnit digits c.toNat) : Spelling c ('\\' :: 'u' :: digits)
  | pair {c : Char} {high low : List Char} (hc : 0x10000 ≤ c.toNat)
      (hhigh : IsUnit high (0xD800 + (c.toNat - 0x10000) / 0x400))
      (hlow : IsUnit low (0xDC00 + (c.toNat - 0x10000) % 0x400)) :
      Spelling c ('\\' :: 'u' :: (high ++ '\\' :: 'u' :: low))

/-- Whether some characters are a text in quotes. -/
def Quotes (s : String) (cs : List Char) : Prop :=
  ∃ parts, List.Forall₂ Spelling s.toList parts ∧ cs = '"' :: (parts.flatten ++ ['"'])

/-- Whether some characters are a text in quotes, with white space around it. -/
def IsItem (s : String) (cs : List Char) : Prop :=
  ∃ before quoted after, (∀ c ∈ before, isGap c = true) ∧ Quotes s quoted ∧ (∀ c ∈ after, isGap c = true) ∧
    cs = before ++ (quoted ++ after)

/-- Whether some characters are the text of a list of texts. -/
inductive ListText : List String → List Char → Prop
  | empty {gap : List Char} (h : ∀ c ∈ gap, isGap c = true) : ListText [] ('[' :: (gap ++ [']']))
  | items {s : String} {names : List String} {parts : List (List Char)} (h : List.Forall₂ IsItem (s :: names) parts) :
      ListText (s :: names) ('[' :: ([','].intercalate parts ++ [']']))

section Scanning

variable (start here : Nat) (next : Char) (rest : List Char)

theorem IsUnit.digits {digits : List Char} {n : Nat} (h : IsUnit digits n) :
    ∃ a b c d, digits = [a, b, c, d] ∧ code? a b c d = some n := by
  obtain ⟨hlength, hnumber⟩ := h
  match digits, hlength with
  | [a, b, c, d], _ => exact ⟨a, b, c, d, rfl, hnumber⟩

/-- No character is a surrogate. -/
theorem isHigh_toNat (c : Char) : Surrogate.isHigh c.toNat = false := by
  have hvalid : c.toNat < 0xD800 ∨ 0xDFFF < c.toNat ∧ c.toNat < 0x110000 := c.valid
  simp [Surrogate.isHigh]
  omega

/-- A character beyond sixteen bits is its pair of surrogates. -/
theorem join_pair {c : Char} (hc : 0x10000 ≤ c.toNat) :
    Surrogate.isHigh (0xD800 + (c.toNat - 0x10000) / 0x400) = true ∧
      Surrogate.isLow (0xDC00 + (c.toNat - 0x10000) % 0x400) = true ∧
        Surrogate.join (0xD800 + (c.toNat - 0x10000) / 0x400) (0xDC00 + (c.toNat - 0x10000) % 0x400) = c := by
  have hvalid : c.toNat < 0xD800 ∨ 0xDFFF < c.toNat ∧ c.toNat < 0x110000 := c.valid
  refine ⟨?_, ?_, ?_⟩
  · simp [Surrogate.isHigh]
    omega
  · simp [Surrogate.isLow]
    omega
  · have hsum : 0x10000 + (0xD800 + (c.toNat - 0x10000) / 0x400 - 0xD800) * 0x400 +
        (0xDC00 + (c.toNat - 0x10000) % 0x400 - 0xDC00) = c.toNat := by omega
    rw [Surrogate.join, hsum, Char.ofNat_toNat]

theorem escaped?_of_mem_letters {e c : Char} (h : (e, c) ∈ letters) : escaped? e = some c := by
  simp only [letters, List.mem_cons, List.not_mem_nil, or_false, Prod.mk.injEq] at h
  rcases h with ⟨rfl, rfl⟩ | ⟨rfl, rfl⟩ | ⟨rfl, rfl⟩ | ⟨rfl, rfl⟩ | ⟨rfl, rfl⟩ | ⟨rfl, rfl⟩ | ⟨rfl, rfl⟩ | ⟨rfl, rfl⟩ <;>
    rfl

/-- A spelled character is read in front of whatever follows, as long as something does. -/
theorem scanUnit_spelling {c : Char} {cs : List Char} (h : Spelling c cs) :
    scanUnit [] start here (cs ++ next :: rest) = .ok (.char c, cs.length) := by
  cases h with
  | itself hc hquote hslash =>
    have hcontrol : ¬c.toNat < 0x20 := by omega
    simp [scanUnit, hslash, hcontrol]
  | letter h => exact scanUnit_letter start here (escaped?_of_mem_letters h) (next :: rest)
  | unit h =>
    obtain ⟨a, b, c', d, rfl, hcode⟩ := h.digits
    simp [scanUnit, scanCode, hcode, isHigh_toNat, Symbol.ofCode_toNat]
  | pair hc hhigh hlow =>
    obtain ⟨a, b, c', d, rfl, hcode⟩ := hhigh.digits
    obtain ⟨e, f, g, h, rfl, hcode'⟩ := hlow.digits
    obtain ⟨hishigh, hislow, hjoin⟩ := join_pair hc
    simp [scanUnit, scanCode, hcode, hcode', hishigh, hislow, hjoin]

theorem Spelling.eq_cons {c : Char} {cs : List Char} (h : Spelling c cs) :
    ∃ first more, cs = first :: more ∧ first ≠ '"' := by
  cases h with
  | itself hc hquote hslash => exact ⟨c, [], rfl, hquote⟩
  | letter | unit | pair => exact ⟨_, _, rfl, by decide⟩

theorem scanText_spelling {c : Char} {cs : List Char} (h : Spelling c cs) :
    scanText [] start 0 here (cs ++ next :: rest) =
      (scanText [] start 0 (here + cs.length) (next :: rest)).map fun (ss, behind) => (.char c :: ss, behind) := by
  have hunit := scanUnit_spelling start here next rest h
  obtain ⟨first, more, rfl, hquote⟩ := h.eq_cons
  rw [List.cons_append] at hunit
  rw [List.cons_append, scanText, if_neg hquote, hunit]
  have hskip := scanText_skip start (here + 1) more (next :: rest)
  have hoffset : here + 1 + more.length = here + (first :: more).length := by
    rw [List.length_cons]
    omega
  simp only [List.length_cons, Nat.add_sub_cancel, hskip]
  rw [hoffset, List.length_cons]
  cases scanText [] start 0 (here + (more.length + 1)) (next :: rest) <;> rfl

/-- What is spelled inside quotes is read as it was meant. -/
theorem scanText_spelled {cs : List Char} {parts : List (List Char)} (h : List.Forall₂ Spelling cs parts) :
    scanText [] start 0 here (parts.flatten ++ '"' :: rest) =
      .ok (cs.map .char, here + parts.flatten.length + 1) := by
  induction h generalizing here with
  | nil => rfl
  | @cons c part cs parts hc _ ih =>
    obtain ⟨next, more, hrest⟩ : ∃ next more, parts.flatten ++ '"' :: rest = next :: more := by
      cases parts.flatten with
      | nil => exact ⟨_, _, rfl⟩
      | cons a as => exact ⟨_, _, rfl⟩
    rw [List.flatten_cons, List.append_assoc, hrest, scanText_spelling start here next more hc, ← hrest, ih, Except.map,
      List.length_append]
    simp only [List.map_cons, Except.ok.injEq, Prod.mk.injEq, true_and]
    omega

end Scanning

section Reading

variable (here : Nat) (rest : List Char)

theorem tokens_gap {gap : List Char} (h : ∀ c ∈ gap, isGap c = true) :
    tokens [] 0 here (gap ++ rest) = tokens [] 0 (here + gap.length) rest := by
  induction gap generalizing here with
  | nil => rfl
  | cons c gap ih =>
    rw [List.cons_append, tokens, h c (List.mem_cons_self ..), if_pos rfl,
      ih (here + 1) fun d hd => h d (List.mem_cons_of_mem _ hd), List.length_cons]
    congr 1
    omega

theorem tokens_quotes {s : String} {cs : List Char} (h : Quotes s cs) :
    tokens [] 0 here (cs ++ rest) = (here, .text s) :: tokens [] 0 (here + cs.length) rest := by
  obtain ⟨parts, hparts, rfl⟩ := h
  apply tokens_of_scan here rest (by decide) _ rfl
  have htext := scanText_spelled here (here + 1) rest hparts
  rw [List.append_assoc]
  simp only [scan, List.singleton_append, htext, Text.ofSymbols_chars, String.ofList_toList, List.length_append, List.length_singleton]
  congr 1
  omega

theorem tokens_item {s : String} {cs : List Char} (h : IsItem s cs) :
    ∃ offset, tokens [] 0 here (cs ++ rest) = (offset, .text s) :: tokens [] 0 (here + cs.length) rest := by
  obtain ⟨before, quoted, after, hbefore, hquoted, hafter, rfl⟩ := h
  refine ⟨here + before.length, ?_⟩
  rw [List.append_assoc, tokens_gap here _ hbefore, List.append_assoc, tokens_quotes _ _ hquoted,
    tokens_gap _ _ hafter]
  simp only [List.length_append, Nat.add_assoc]

theorem assemble_items (length : Nat) {s : String} {names : List String} {parts : List (List Char)}
    (h : List.Forall₂ IsItem (s :: names) parts) (fresh : Bool) (done : List Json) :
    assemble length (.value fresh) [.items done] (tokens [] 0 here ([','].intercalate parts ++ [']'])) =
      .ok (.arr (done.reverse ++ (s :: names).map fun (name : String) => .str name)) := by
  induction names generalizing s parts here fresh done with
  | nil =>
    obtain ⟨part, hpart, rfl⟩ : ∃ part, IsItem s part ∧ parts = [part] := by
      cases h with
      | cons hpart hnil =>
        cases hnil
        exact ⟨_, hpart, rfl⟩
    obtain ⟨offset, htokens⟩ := tokens_item here [']'] hpart
    rw [List.intercalate_singleton, htokens, assemble, tokens_closeArray, assemble, tokens, assemble]
    simp
  | cons second names ih =>
    obtain ⟨part, next, parts, rfl, hpart, hnext⟩ : ∃ part next more, parts = part :: next :: more ∧ IsItem s part ∧
        List.Forall₂ IsItem (second :: names) (next :: more) := by
      cases h with
      | cons hpart hrest =>
        cases hrest with
        | cons hnext hmore => exact ⟨_, _, _, rfl, hpart, .cons hnext hmore⟩
    obtain ⟨offset, htokens⟩ := tokens_item here (',' :: ([','].intercalate (next :: parts) ++ [']'])) hpart
    rw [List.intercalate_cons_cons, List.append_assoc, List.append_assoc, List.singleton_append, htokens, assemble,
      tokens_comma, assemble, ih _ hnext]
    simp

/-- A list is read from every text of it. -/
theorem read_listText {names : List String} {cs : List Char} (h : ListText names cs) : read cs = .ok (ofTexts (names.map .whole)) := by
  have hroom : ¬maxDepth ≤ ([] : List Frame).length := by decide
  rw [read, readWith]
  cases h with
  | empty hgap =>
    rw [tokens_openArray, assemble, if_neg hroom, tokens_gap _ _ hgap, tokens_closeArray, assemble, tokens, assemble]
    rfl
  | items h =>
    rw [tokens_openArray, assemble, if_neg hroom, assemble_items _ _ h, ofTexts, List.map_map]
    rfl

end Reading

section Widths

/-- How many characters a token takes at least. -/
def Token.width : Token → Nat
  | .text s => s.symbols.length + 2
  | _ => 1

/-- Whether a value is neither a text nor made of others. -/
def isAtom : Json → Bool
  | .str _ | .arr _ | .obj _ => false
  | _ => true

/-- A text ends behind all its characters, and not behind what it is read from. -/
theorem behind_of_scanText {start skip here behind : Nat} {cs : List Char} {ss : List Symbol}
    (h : scanText [] start skip here cs = .ok (ss, behind)) :
    here + skip + ss.length + 1 ≤ behind ∧ behind ≤ here + cs.length := by
  induction cs generalizing skip here ss with
  | nil => cases h
  | cons c cs ih =>
    rw [List.length_cons]
    cases skip with
    | succ skip =>
      rw [scanText] at h
      have hrest := ih h
      omega
    | zero =>
      rw [scanText] at h
      split at h
      · cases h
        simp
      · split at h
        · cases h
        · next length _ =>
          split at h
          · cases h
          · next hrest =>
            cases h
            have hbounds := ih hrest
            rw [List.length_cons]
            omega

theorem isAtom_of_value {n : Numeral} {v : Json} (h : n.value = .ok v) : v.isAtom = true := by
  unfold Numeral.value at h
  split at h
  · split at h
    · cases h
    · cases h
      rfl
  · cases h
    rfl

theorem isAtom_of_mem_words {word : List Char × Json} (h : word ∈ words) : word.2.isAtom = true := by
  simp only [words, List.mem_cons, List.not_mem_nil, or_false] at h
  rcases h with rfl | rfl | rfl | rfl | rfl | rfl <;> rfl

/-- A token is a text as long as it takes, or a single character at least; and its value, if it bears one, is an atom. -/
theorem scan_spec {here : Nat} {c : Char} {cs : List Char} {token : Token} {length : Nat}
    (h : scan [] here (c :: cs) = (token, length)) :
    (token.width = 1 ∨ token.width ≤ length ∧ length ≤ cs.length + 1) ∧ ∀ v, token = .scalar v → v.isAtom = true := by
  unfold scan at h
  split at h
  case h_7 rest heq =>
    obtain ⟨-, rfl⟩ := List.cons.inj heq
    split at h
    · next ds behind htext =>
      cases h
      have hbounds := behind_of_scanText htext
      refine ⟨.inr ⟨?_, by omega⟩, nofun⟩
      rw [Token.width, Text.symbols_ofSymbols]
      omega
    · cases h
      exact ⟨.inl rfl, nofun⟩
  case h_8 =>
    split at h
    · next word hword =>
      cases h
      refine ⟨.inl rfl, fun v hv => ?_⟩
      cases hv
      exact isAtom_of_mem_words (List.mem_of_find?_eq_some hword)
    · split at h
      · cases h
        exact ⟨.inl rfl, nofun⟩
      · split at h
        · next hvalue =>
          cases h
          refine ⟨.inl rfl, fun v hv => ?_⟩
          cases hv
          exact isAtom_of_value hvalue
        · cases h
          exact ⟨.inl rfl, nofun⟩
  all_goals
    cases h
    exact ⟨.inl rfl, nofun⟩

/-- The tokens of a text take no more characters than there are, and bear no values but atoms. -/
theorem tokens_spec (skip here : Nat) (cs : List Char) :
    ((tokens [] skip here cs).map fun row => row.2.width).sum ≤ cs.length - skip ∧
      ∀ row ∈ tokens [] skip here cs, ∀ v, row.2 = .scalar v → v.isAtom = true := by
  induction cs generalizing skip here with
  | nil => exact ⟨Nat.zero_le _, List.forall_mem_nil _⟩
  | cons c cs ih =>
    rw [List.length_cons]
    cases skip with
    | succ skip =>
      obtain ⟨hsum, hatoms⟩ := ih skip (here + 1)
      rw [tokens]
      exact ⟨by omega, hatoms⟩
    | zero =>
      rw [tokens]
      split
      · obtain ⟨hsum, hatoms⟩ := ih 0 (here + 1)
        exact ⟨by omega, hatoms⟩
      · rcases hscan : scan [] here (c :: cs) with ⟨token, length⟩
        obtain ⟨hwidth, hatom⟩ := scan_spec hscan
        obtain ⟨hsum, hatoms⟩ := ih (length - 1) (here + 1)
        rw [List.map_cons, List.sum_cons, List.forall_mem_cons]
        dsimp only
        split
        · simp only [List.map_nil, List.sum_nil]
          exact ⟨by omega, hatom, List.forall_mem_nil _⟩
        · exact ⟨by omega, hatom, hatoms⟩

theorem sum_width_of_spells {ts : List Token} {s : String} (h : Spells ts (.str s))
    (ha : ∀ token ∈ ts, ∀ v, token = .scalar v → v.isAtom = true) : (ts.map Token.width).sum = s.length + 2 := by
  cases h with
  | text => simp [Token.width, String.length_toList]
  | scalar => cases ha _ (List.mem_singleton_self _) _ rfl

theorem length_intercalate_le {parts : List (List Token × Json)} {names : List String}
    (hvalues : parts.map (·.2) = names.map fun (name : String) => .str name) (hparts : ∀ part ∈ parts, Spells part.1 part.2)
    (ha : ∀ token ∈ [.comma].intercalate (parts.map (·.1)), ∀ v, token = .scalar v → v.isAtom = true) :
    ([','].intercalate (names.map String.toList)).length ≤
      (([.comma].intercalate (parts.map (·.1))).map Token.width).sum := by
  induction parts generalizing names with
  | nil =>
    obtain rfl : names = [] := List.map_eq_nil_iff.1 hvalues.symm
    simp
  | cons part parts ih =>
    obtain ⟨s, names, rfl⟩ : ∃ s more, names = s :: more := by
      cases names with
      | nil => cases hvalues
      | cons s more => exact ⟨s, more, rfl⟩
    obtain ⟨hvalue, hvalues⟩ := List.cons.inj hvalues
    have hpart := hparts part (List.mem_cons_self ..)
    replace hvalue : part.2 = .str s := hvalue
    rw [hvalue] at hpart
    have hrest := ih hvalues fun p hp => hparts p (List.mem_cons_of_mem _ hp)
    cases parts with
    | nil =>
      obtain rfl : names = [] := List.map_eq_nil_iff.1 hvalues.symm
      simp only [List.map_cons, List.map_nil, List.intercalate_singleton, String.length_toList] at ha ⊢
      rw [sum_width_of_spells hpart ha]
      omega
    | cons next parts =>
      obtain ⟨t, names, rfl⟩ : ∃ t more, names = t :: more := by
        cases names with
        | nil => cases hvalues
        | cons t more => exact ⟨t, more, rfl⟩
      simp only [List.map_cons, List.intercalate_cons_cons, List.append_assoc, List.forall_mem_append] at ha hrest ⊢
      have hwidth := sum_width_of_spells hpart ha.1
      have hlater := hrest ha.2.2
      simp only [List.map_append, List.sum_append, List.length_append, List.length_singleton, String.length_toList,
        hwidth]
      omega

/-- A list is read only from what is longer than its items with commas between them. -/
theorem length_lt_of_read {cs : List Char} {names : List String} (h : read cs = .ok (ofTexts (names.map .whole))) :
    ([','].intercalate (names.map String.toList)).length < cs.length := by
  have hspells := spells_of_runs (runs_of_assemble h)
  obtain ⟨hsum, hatoms⟩ := tokens_spec 0 0 cs
  replace hatoms : ∀ token ∈ (tokens [] 0 0 cs).map (·.2), ∀ v, token = .scalar v → v.isAtom = true :=
    List.forall_mem_map.2 hatoms
  rw [show (fun row : Nat × Token => row.2.width) = Token.width ∘ (·.2) from rfl, ← List.map_map] at hsum
  generalize (tokens [] 0 0 cs).map (·.2) = ts at hspells hsum hatoms
  rw [ofTexts, List.map_map] at hspells
  generalize hvalues : names.map (Json.str ∘ Text.whole) = values at hspells
  cases hspells with
  | scalar => cases hatoms _ (List.mem_singleton_self _) _ rfl
  | arr parts hparts =>
    have hlength := length_intercalate_le hvalues.symm hparts fun token ht =>
      hatoms token (List.mem_cons_of_mem _ (List.mem_append_left _ ht))
    simp only [List.map_cons, List.map_append, List.map_nil, List.sum_cons, List.sum_append, List.sum_nil,
      Token.width] at hsum
    omega

end Widths

end SignOn.Json
