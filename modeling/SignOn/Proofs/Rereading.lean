import SignOn.Proofs.Escapes
import SignOn.Json.Bytes
import SignOn.Json.Writer

/-!
Values that are read again after they were written. Those without numbers come back as they were, out of their text and
out of its bytes, as long as no two members of an object share a name and they nest no deeper than a reader goes.
-/

namespace SignOn

namespace Table

variable {α κ : Type} [DecidableEq κ]

theorem foldl_put_of_nodup (t rows : Table α κ) (h : ((t ++ rows).map (·.1)).Nodup) :
    rows.foldl (fun t row => put t row.1 row.2) t = t ++ rows := by
  induction rows generalizing t with
  | nil => simp
  | cons row rows ih =>
    have hnew : has t row.1 = false := by
      rw [Bool.eq_false_iff]
      intro hhas
      obtain ⟨old, hold, hname⟩ := List.any_eq_true.1 hhas
      rw [List.map_append, List.map_cons, List.nodup_append] at h
      exact h.2.2 old.1 (List.mem_map_of_mem hold) row.1 (by simp) (by simpa using hname)
    have hput : put t row.1 row.2 = t ++ [row] := by simp [put, hnew]
    rw [List.foldl_cons, hput, ih (t ++ [row]) (by simpa using h), List.append_assoc]
    rfl

/-- Rows of different names are a table as they stand. -/
theorem ofRows_of_nodup {rows : Table α κ} (h : (rows.map (·.1)).Nodup) : ofRows rows = rows := by
  have hfold := foldl_put_of_nodup [] rows (by simpa using h)
  simpa [ofRows] using hfold

end Table

namespace Json

/-- Whether a value holds no numbers and no halves of pairs, nests no deeper than some bound, and has objects whose members
differ in name. -/
inductive Plain : Nat → Json → Prop
  | null {d : Nat} : Plain d .null
  | bool {d : Nat} (b : Bool) : Plain d (.bool b)
  | str {d : Nat} (s : String) : Plain d (.str s)
  | arr {d : Nat} {items : List Json} (h : ∀ v ∈ items, Plain d v) : Plain (d + 1) (.arr items)
  | obj {d : Nat} {members : Members} (hn : (members.map (·.1)).Nodup) (hw : ∀ m ∈ members, m.1.isWhole = true)
      (h : ∀ m ∈ members, Plain d m.2) : Plain (d + 1) (.obj members)

/-- What may nest so deep may also nest deeper. -/
theorem Plain.mono {d e : Nat} {v : Json} (h : Plain d v) (hde : d ≤ e) : Plain e v := by
  induction h generalizing e with
  | null => exact .null
  | bool b => exact .bool b
  | str s => exact .str s
  | arr _ ih =>
    obtain ⟨e, rfl⟩ := Nat.exists_eq_add_of_lt hde
    exact .arr fun v hv => ih v hv (by omega)
  | obj hn hw _ ih =>
    obtain ⟨e, rfl⟩ := Nat.exists_eq_add_of_lt hde
    exact .obj hn hw fun m hm => ih m hm (by omega)

theorem Plain.text {d : Nat} {t : Text} (h : t.isWhole = true) : Plain d (.str t) := by
  obtain ⟨s, rfl⟩ := Text.isWhole_iff.1 h
  exact .str s

/-- An object of texts that differ in name nests one deep. -/
theorem plain_texts (rows : List (String × String)) (h : (rows.map (·.1)).Nodup) :
    Plain 1 (.obj (rows.map fun row => (↑row.1, .str row.2))) := by
  have hnames : ((rows.map fun row => (Text.whole row.1, str row.2)).map (·.1)).Nodup := by
    have hmap : ((rows.map (·.1)).map Text.whole).Nodup :=
      List.pairwise_map.2 (h.imp fun hne heq => hne (Text.whole.inj heq))
    rwa [List.map_map] at hmap ⊢
  refine .obj hnames ?_ ?_
  · rintro m hm
    obtain ⟨row, -, rfl⟩ := List.mem_map.1 hm
    rfl
  · rintro m hm
    obtain ⟨row, -, rfl⟩ := List.mem_map.1 hm
    exact .str row.2

section Text

variable (start here : Nat)

theorem scanText_skip (skipped rest : List Char) :
    scanText [] start skipped.length here (skipped ++ rest) = scanText [] start 0 (here + skipped.length) rest := by
  induction skipped generalizing here with
  | nil => rfl
  | cons c skipped ih =>
    rw [List.cons_append, List.length_cons, scanText, ih]
    congr 1
    omega

/-- A control character is written by its number, and read by it. -/
theorem scanCode_padded : ∀ n < 0x20, ∀ next rest,
    scanCode here (Hex.padded 4 n ++ next :: rest) = .ok (.char (Char.ofNat n), 6) := by
  intro n hn next rest
  have hcode : ∃ a b c d, Hex.padded 4 n = [a, b, c, d] ∧ code? a b c d = some n := by
    refine ⟨_, _, _, _, rfl, ?_⟩
    revert n
    decide
  obtain ⟨a, b, c, d, hp, hv⟩ := hcode
  have hhigh : Surrogate.isHigh n = false := by
    simp [Surrogate.isHigh]
    omega
  have hcode : Symbol.ofCode n = .char (Char.ofNat n) := dif_neg (by omega)
  rw [hp]
  simp [scanCode, hv, hhigh, hcode]

/-- How a character is written: by a letter, by its number, or as it is. -/
theorem escape_cases (c : Char) :
    (∃ e, escape c = ['\\', e] ∧ escaped? e = some c) ∨
      (c.toNat < 0x20 ∧ escape c = '\\' :: 'u' :: Hex.padded 4 c.toNat) ∨
        (c ≠ '"' ∧ c ≠ '\\' ∧ ¬c.toNat < 0x20 ∧ escape c = [c]) := by
  by_cases hletter : c ∈ ['"', '\\', '\n', '\r', '\t', '\x08', '\x0c']
  · left
    simp only [List.mem_cons, List.not_mem_nil, or_false] at hletter
    rcases hletter with rfl | rfl | rfl | rfl | rfl | rfl | rfl <;> exact ⟨_, rfl, rfl⟩
  · right
    simp only [List.mem_cons, List.not_mem_nil, or_false, not_or] at hletter
    by_cases hcontrol : c.toNat < 0x20
    · exact .inl ⟨hcontrol, by simp [escape, hletter, hcontrol]⟩
    · exact .inr ⟨hletter.1, hletter.2.1, hcontrol, by simp [escape, hletter, hcontrol]⟩

theorem scanUnit_letter {e c : Char} (hc : escaped? e = some c) (rest : List Char) :
    scanUnit [] start here ('\\' :: e :: rest) = .ok (.char c, 2) := by
  rw [scanUnit, hc]
  rintro rfl
  cases hc

/-- A character that was escaped is read as it was, as long as something stands behind it. -/
theorem scanUnit_escape (c next : Char) (rest : List Char) :
    scanUnit [] start here (escape c ++ next :: rest) = .ok (.char c, (escape c).length) := by
  rcases escape_cases c with ⟨e, he, hc⟩ | ⟨hcontrol, he⟩ | ⟨-, hslash, hcontrol, he⟩
  · rw [he]
    exact scanUnit_letter start here hc (next :: rest)
  · have hcode := scanCode_padded here c.toNat hcontrol next rest
    rw [Char.ofNat_toNat] at hcode
    rw [he]
    exact hcode
  · rw [he]
    simp [scanUnit, hslash, hcontrol]

theorem escape_eq_cons (c : Char) : ∃ first more, escape c = first :: more ∧ first ≠ '"' := by
  rcases escape_cases c with ⟨e, he, -⟩ | ⟨-, he⟩ | ⟨hquote, -, -, he⟩
  · exact ⟨_, _, he, by decide⟩
  · exact ⟨_, _, he, by decide⟩
  · exact ⟨_, _, he, hquote⟩

theorem scanText_escape (c next : Char) (rest : List Char) :
    scanText [] start 0 here (escape c ++ next :: rest) =
      (scanText [] start 0 (here + (escape c).length) (next :: rest)).map fun (ss, behind) => (.char c :: ss, behind) := by
  have hunit := scanUnit_escape start here c next rest
  obtain ⟨first, more, he, hquote⟩ := escape_eq_cons c
  rw [he] at hunit ⊢
  rw [List.cons_append, scanText, if_neg hquote]
  rw [List.cons_append] at hunit
  rw [hunit]
  have hskip := scanText_skip start (here + 1) more (next :: rest)
  have hlength : (first :: more).length - 1 = more.length := rfl
  have hoffset : here + 1 + more.length = here + (first :: more).length := by
    rw [List.length_cons]
    omega
  simp only [hlength, hskip, hoffset]
  cases scanText [] start 0 (here + (first :: more).length) (next :: rest) <;> rfl

/-- What was put inside quotes is read as it was. -/
theorem scanText_flatMap_escape (cs rest : List Char) :
    scanText [] start 0 here (cs.flatMap escape ++ '"' :: rest) =
      .ok (cs.map .char, here + (cs.flatMap escape).length + 1) := by
  induction cs generalizing here with
  | nil => rfl
  | cons c cs ih =>
    obtain ⟨next, more, hrest⟩ : ∃ next more, cs.flatMap escape ++ '"' :: rest = next :: more := by
      cases cs.flatMap escape with
      | nil => exact ⟨_, _, rfl⟩
      | cons a as => exact ⟨_, _, rfl⟩
    rw [List.flatMap_cons, List.append_assoc, hrest, scanText_escape, ← hrest, ih, Except.map, List.length_append]
    simp only [List.map_cons, Except.ok.injEq, Prod.mk.injEq, true_and]
    omega

end Text

section Tokens

variable (here : Nat) (rest : List Char)

theorem tokens_skip (skipped : List Char) :
    tokens [] skipped.length here (skipped ++ rest) = tokens [] 0 (here + skipped.length) rest := by
  induction skipped generalizing here with
  | nil => rfl
  | cons c skipped ih =>
    rw [List.cons_append, List.length_cons, tokens, ih]
    congr 1
    omega

/-- A stretch that is a token of its own, whatever follows. -/
theorem tokens_of_scan {first : Char} {more : List Char} {token : Token} (hgap : isGap first = false)
    (hs : scan [] here (first :: (more ++ rest)) = (token, more.length + 1)) (ht : token.isFaulty = false) :
    tokens [] 0 here (first :: more ++ rest) = (here, token) :: tokens [] 0 (here + (first :: more).length) rest := by
  rw [List.cons_append, tokens, hgap, hs]
  simp only [Bool.false_eq_true, ↓reduceIte, ht, Nat.add_sub_cancel]
  rw [tokens_skip, List.length_cons]
  congr 2
  omega

theorem tokens_quoted (s : String) :
    tokens [] 0 here (quoted s ++ rest) = (here, .text s) :: tokens [] 0 (here + (quoted s).length) rest := by
  rw [quoted_whole]
  apply tokens_of_scan here rest (by decide) _ rfl
  have htext := scanText_flatMap_escape here (here + 1) s.toList rest
  rw [List.append_assoc]
  simp only [scan, List.singleton_append, htext, Text.ofSymbols_chars, String.ofList_toList, List.length_append, List.length_singleton]
  congr 1
  omega

theorem tokens_openArray : tokens [] 0 here ('[' :: rest) = (here, .openArray) :: tokens [] 0 (here + 1) rest := rfl

theorem tokens_closeArray : tokens [] 0 here (']' :: rest) = (here, .closeArray) :: tokens [] 0 (here + 1) rest := rfl

theorem tokens_openObject : tokens [] 0 here ('\x7b' :: rest) = (here, .openObject) :: tokens [] 0 (here + 1) rest := rfl

theorem tokens_closeObject : tokens [] 0 here ('\x7d' :: rest) = (here, .closeObject) :: tokens [] 0 (here + 1) rest := rfl

theorem tokens_comma : tokens [] 0 here (',' :: rest) = (here, .comma) :: tokens [] 0 (here + 1) rest := rfl

theorem tokens_colon : tokens [] 0 here (':' :: rest) = (here, .colon) :: tokens [] 0 (here + 1) rest := rfl

theorem tokens_null : tokens [] 0 here (write .null ++ rest) = (here, .scalar .null) :: tokens [] 0 (here + 4) rest := rfl

theorem tokens_bool (b : Bool) :
    tokens [] 0 here (write (.bool b) ++ rest) =
      (here, .scalar (.bool b)) :: tokens [] 0 (here + (write (.bool b)).length) rest := by
  cases b <;> rfl

end Tokens

/-- What a reader does with a value that was written: it goes on behind it, the value in hand. -/
def Rereads (d : Nat) (v : Json) : Prop :=
  ∀ (length here : Nat) (fresh : Bool) (frames : List Frame) (rest : List Char), frames.length + d ≤ maxDepth →
    assemble length (.value fresh) frames (tokens [] 0 here (write v ++ rest)) =
      assemble length (.after v) frames (tokens [] 0 (here + (write v).length) rest)

section Assemble

variable {d : Nat} (length : Nat)

theorem rereads_items {first : Json} {items : List Json} (h : ∀ v ∈ first :: items, Rereads d v) (here : Nat)
    (fresh : Bool) (done : List Json) (frames : List Frame) (rest : List Char) (hd : frames.length + 1 + d ≤ maxDepth) :
    assemble length (.value fresh) (.items done :: frames)
        (tokens [] 0 here (writeItems (first :: items) ++ ']' :: rest)) =
      assemble length (.after (.arr (done.reverse ++ first :: items))) frames
        (tokens [] 0 (here + (writeItems (first :: items)).length + 1) rest) := by
  have hfirst := h first (by simp)
  have hd' : ∀ done, (Frame.items done :: frames).length + d ≤ maxDepth := fun _ => hd
  induction items generalizing first here fresh done with
  | nil =>
    rw [writeItems_singleton, hfirst _ _ _ _ _ (hd' _), tokens_closeArray, assemble, List.reverse_cons]
  | cons second items ih =>
    have hrest := ih (fun v hv => h v (List.mem_cons_of_mem _ hv)) (here + (write first).length + 1) false
      (first :: done) (h second (by simp))
    rw [writeItems_cons_cons, List.append_assoc, List.cons_append, hfirst _ _ _ _ _ (hd' _), tokens_comma, assemble, hrest,
      List.reverse_cons, List.append_assoc, List.singleton_append, List.length_append, List.length_cons]
    congr 2
    omega

theorem rereads_members {first : Text × Json} {members : Members}
    (hw : ∀ m ∈ first :: members, m.1.isWhole = true) (h : ∀ m ∈ first :: members, Rereads d m.2) (here : Nat) (fresh : Bool) (done : Members) (frames : List Frame)
    (rest : List Char) (hd : frames.length + 1 + d ≤ maxDepth) :
    assemble length (.name done fresh) frames
        (tokens [] 0 here (writeMembers (first :: members) ++ '\x7d' :: rest)) =
      assemble length (.after (.obj (Table.ofRows (done.reverse ++ first :: members)))) frames
        (tokens [] 0 (here + (writeMembers (first :: members)).length + 1) rest) := by
  obtain ⟨name, v⟩ := first
  obtain ⟨name, rfl⟩ := Text.isWhole_iff.1 (hw (name, v) (by simp))
  have hfirst : Rereads d v := h (name, v) (by simp)
  have hd' : ∀ done name, (Frame.members done name :: frames).length + d ≤ maxDepth := fun _ _ => hd
  induction members generalizing name v here fresh done with
  | nil =>
    rw [writeMembers_singleton, List.append_assoc, tokens_quoted, assemble, List.cons_append, tokens_colon, assemble,
      hfirst _ _ _ _ _ (hd' _ _), tokens_closeObject, assemble, closeMembers, List.reverse_cons, List.length_append,
      List.length_cons]
    congr 2
    omega
  | cons second members ih =>
    obtain ⟨name', v'⟩ := second
    obtain ⟨name', rfl⟩ := Text.isWhole_iff.1 (hw (name', v') (by simp))
    have hrest := ih (here + (quoted name).length + 1 + (write v).length + 1) false ((↑name, v) :: done) v' name'
      (fun m hm => hw m (List.mem_cons_of_mem _ hm)) (fun m hm => h m (List.mem_cons_of_mem _ hm))
      (h (↑name', v') (by simp))
    rw [writeMembers_cons_cons, List.append_assoc, tokens_quoted, assemble, List.cons_append, tokens_colon, assemble,
      List.append_assoc, hfirst _ _ _ _ _ (hd' _ _), List.cons_append, tokens_comma, assemble, hrest,
      List.reverse_cons, List.append_assoc, List.singleton_append, List.length_append, List.length_cons,
      List.length_append, List.length_cons]
    congr 2
    omega

/-- A value without numbers is reread as it was. -/
theorem Plain.rereads {v : Json} (h : Plain d v) : Rereads d v := by
  induction h with
  | null =>
    intro length here fresh frames rest _
    rw [tokens_null, assemble]
    rfl
  | str s =>
    intro length here fresh frames rest _
    rw [write_str, tokens_quoted, assemble]
  | bool b =>
    intro length here fresh frames rest _
    rw [tokens_bool, assemble]
  | @arr d items _ ih =>
    intro length here fresh frames rest hd
    have hroom : ¬maxDepth ≤ frames.length := by omega
    rw [write_arr, List.cons_append, tokens_openArray, assemble, if_neg hroom, List.append_assoc, List.singleton_append]
    cases items with
    | nil => rfl
    | cons first items =>
      rw [rereads_items length ih _ _ _ _ _ (by omega), List.reverse_nil, List.nil_append]
      simp only [List.length_cons, List.length_append, List.length_nil]
      congr 2
      omega
  | @obj d members hn hw _ ih =>
    intro length here fresh frames rest hd
    have hroom : ¬maxDepth ≤ frames.length := by omega
    rw [write_obj, List.cons_append, tokens_openObject, assemble, if_neg hroom, List.append_assoc, List.singleton_append]
    cases members with
    | nil => rfl
    | cons first members =>
      rw [rereads_members length hw ih _ _ _ _ _ (by omega), List.reverse_nil, List.nil_append, Table.ofRows_of_nodup hn]
      simp only [List.length_cons, List.length_append, List.length_nil]
      congr 2
      omega

end Assemble

/-- A text that was written for a value denotes it. -/
theorem read_write {v : Json} (h : Plain maxDepth v) : read (write v) = .ok v := by
  have hv := h.rereads (write v).length 0 false [] [] (by simp)
  rw [List.append_nil, tokens] at hv
  rw [read, readWith, hv, assemble]

end Json

namespace Utf8

theorem pieces_encode (cs : List Char) : pieces none (encode cs) = cs.map .char := by
  induction cs with
  | nil => rfl
  | cons c cs ih => rw [encode_cons, pieces_utf8EncodeChar, ih, List.map_cons]

/-- The bytes of a text are that text to a strict reader too. -/
theorem decode_encode (cs : List Char) : decode (encode cs) = .ok (cs.map .char) := by
  have hgather : ∀ offset, gather offset (cs.map .char) = .ok (cs.map .char) := by
    induction cs with
    | nil => exact fun _ => rfl
    | cons c cs ih =>
      intro offset
      rw [List.map_cons, gather, ih]
      rfl
  rw [decode, pieces_encode, hgather]

theorem utf8EncodeChar_of_ascii {c : Char} (hc : c.toNat < 0x80) :
    String.utf8EncodeChar c = [UInt8.ofNat c.toNat] := by
  have hv : c.val.toNat ≤ 0x7F := Nat.le_of_lt_succ hc
  simp only [String.utf8EncodeChar, if_pos hv, Char.toNat]

/-- Only the character zero begins with the byte zero. -/
theorem utf8EncodeChar_eq_cons {c : Char} (hc : c.toNat ≠ 0) :
    ∃ b bs, String.utf8EncodeChar c = b :: bs ∧ b ≠ 0 := by
  have hbyte : ∀ n, 0 < n → n < 256 → UInt8.ofNat n ≠ 0 := by
    intro n hpos hlt h
    have := congrArg UInt8.toNat h
    rw [toNat_byte hlt] at this
    exact absurd this (by simpa using Nat.ne_of_gt hpos)
  have hv : c.val.toNat ≠ 0 := hc
  unfold String.utf8EncodeChar
  generalize c.val.toNat = v at hv
  simp only
  split
  · exact ⟨_, _, rfl, hbyte v (by omega) (by omega)⟩
  · split
    · exact ⟨_, _, rfl, hbyte _ (by omega) (by omega)⟩
    · split
      · exact ⟨_, _, rfl, hbyte _ (by omega) (by omega)⟩
      · exact ⟨_, _, rfl, hbyte _ (by omega) (by omega)⟩

end Utf8

namespace Json

/-- Bytes are UTF-8 if they begin with an ASCII character other than zero and no zero follows it. -/
theorem Encoding.detect_of_ascii {a : UInt8} {bs : List UInt8} (ha : a ≠ 0) (hascii : a.toNat < 0x80)
    (hb : ∀ b ∈ bs.head?, b ≠ 0) : detect (a :: bs) = (.utf8, 0) := by
  have hmark : ∀ m : UInt8, 0x80 ≤ m.toNat → m ≠ a := by
    rintro m hm rfl
    omega
  have hnone : marks.find? (·.1.isPrefixOf (a :: bs)) = none := by
    have hFF := hmark 0xFF (by decide)
    have hFE := hmark 0xFE (by decide)
    have hEF := hmark 0xEF (by decide)
    simp [marks, List.isPrefixOf, ha.symm, hFF, hFE, hEF]
  have hzeros : ofZeros (a :: bs) = .utf8 := by
    cases bs with
    | nil => rfl
    | cons b bs =>
      have hnext : b ≠ 0 := hb b rfl
      rcases bs with - | ⟨c, - | ⟨d, rest⟩⟩
      · simp [ofZeros, ha, hnext]
      · rfl
      · simp [ofZeros, ha, hnext]
  rw [detect, hnone, hzeros]

/-- Whether some characters begin with an ASCII character other than zero that no zero follows. -/
def Begins (cs : List Char) : Prop :=
  ∃ first more, cs = first :: more ∧ first.toNat ≠ 0 ∧ first.toNat < 0x80 ∧ ∀ c ∈ more.head?, c.toNat ≠ 0

theorem Begins.decodeText_encode {cs : List Char} (h : Begins cs) : decodeText (Utf8.encode cs) = .ok (cs.map .char) := by
  obtain ⟨first, more, rfl, hne, hascii, hmore⟩ := h
  have hbyte : (UInt8.ofNat first.toNat).toNat = first.toNat := Utf8.toNat_byte (by omega)
  have hnext : ∀ b ∈ (Utf8.encode more).head?, b ≠ 0 := by
    cases more with
    | nil => simp
    | cons c more =>
      obtain ⟨b, bs, he, hb⟩ := Utf8.utf8EncodeChar_eq_cons (hmore c rfl)
      rw [Utf8.encode_cons, he]
      simpa using hb
  have hdetect : Encoding.detect (Utf8.encode (first :: more)) = (.utf8, 0) := by
    rw [Utf8.encode_cons, Utf8.utf8EncodeChar_of_ascii hascii, List.singleton_append]
    refine Encoding.detect_of_ascii ?_ (by rwa [hbyte]) hnext
    intro hzero
    rw [hzero] at hbyte
    exact hne hbyte.symm
  rw [decodeText, hdetect]
  simp only [List.drop_zero, Utf8.decode_encode]
  rfl

theorem begins_quoted (s : String) (rest : List Char) : Begins (quoted s ++ rest) := by
  rw [quoted_whole, List.cons_append]
  refine ⟨_, _, rfl, by decide, by decide, ?_⟩
  cases hs : s.toList with
  | nil => simp
  | cons c cs =>
    rcases escape_cases c with ⟨e, he, -⟩ | ⟨-, he⟩ | ⟨-, -, hcontrol, he⟩
    · simp [he]
    · simp [he]
    · simp [he]
      omega

/-- A written value begins like one. -/
theorem Plain.begins {d : Nat} {v : Json} (h : Plain d v) (rest : List Char) : Begins (write v ++ rest) := by
  have hopen : ∀ first : Char, first.toNat ≠ 0 → first.toNat < 0x80 → ∀ more, (∃ c, more.head? = some c ∧ c.toNat ≠ 0) →
      Begins (first :: more) := by
    rintro first hne hascii more ⟨c, hc, hnz⟩
    refine ⟨first, more, rfl, hne, hascii, fun c' hc' => ?_⟩
    obtain rfl := Option.some.inj (hc.symm.trans hc')
    exact hnz
  induction h generalizing rest with
  | null => exact hopen 'n' (by decide) (by decide) _ ⟨'u', rfl, by decide⟩
  | bool b =>
    cases b with
    | false => exact hopen 'f' (by decide) (by decide) _ ⟨'a', rfl, by decide⟩
    | true => exact hopen 't' (by decide) (by decide) _ ⟨'r', rfl, by decide⟩
  | str s => exact begins_quoted s rest
  | @arr d items _ ih =>
    rw [write_arr, List.cons_append, List.append_assoc]
    refine hopen '[' (by decide) (by decide) _ ?_
    match items with
    | [] => exact ⟨']', rfl, by decide⟩
    | [v] =>
      obtain ⟨first, more, he, hne, -⟩ := ih v (by simp) ([']'] ++ rest)
      rw [writeItems_singleton, he]
      exact ⟨first, rfl, hne⟩
    | v :: w :: others =>
      obtain ⟨first, more, he, hne, -⟩ := ih v (by simp) (',' :: writeItems (w :: others) ++ ([']'] ++ rest))
      rw [writeItems_cons_cons, List.append_assoc, he]
      exact ⟨first, rfl, hne⟩
  | @obj d members hn hw _ _ =>
    rw [write_obj, List.cons_append, List.append_assoc]
    refine hopen '\x7b' (by decide) (by decide) _ ?_
    match members with
    | [] => exact ⟨'\x7d', rfl, by decide⟩
    | [(name, v)] =>
      rw [writeMembers_singleton]
      exact ⟨'"', rfl, by decide⟩
    | (name, v) :: m :: others =>
      rw [writeMembers_cons_cons]
      exact ⟨'"', rfl, by decide⟩

/-- The bytes that were written for a value denote it. -/
theorem readBytes_write {v : Json} (h : Plain maxDepth v) : readBytes (Utf8.encode (write v)) = .ok v := by
  have hbegins := h.begins []
  rw [List.append_nil] at hbegins
  rw [readBytes, hbegins.decodeText_encode]
  simp only [Symbol.halves_chars, Symbol.map_shown_chars]
  rw [← read, read_write h]

end Json

end SignOn
