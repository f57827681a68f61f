import Mathlib.Data.List.TakeWhile
import SignOn.Proofs.Clocks
import SignOn.Proofs.Forms
import SignOn.Proofs.Lookup

/-!
Hosts and ports that have been read, as they stand in an authority, and what reading them once more makes of them.
-/

namespace SignOn

theorem Digits.toNat_lt_of_isDigit {c : Char} (h : c.isDigit = true) : c.toNat < 128 :=
  Percent.toNat_lt_of_unreserved (by simp [Percent.unreserved, Char.isAlphanum, h])

namespace Numeral

theorem lt_of_digits? {afterDigit : Bool} {cs : List Char} {ds : List Nat} (h : digits? afterDigit cs = some ds) :
    ∀ d ∈ ds, d < 10 := by
  induction cs generalizing afterDigit ds with
  | nil =>
    rw [digits?] at h
    split at h
    · obtain rfl := Option.some.inj h
      simp
    · cases h
  | cons c cs ih =>
    rw [digits?] at h
    split at h
    · split at h
      · exact ih h
      · cases h
    · split at h
      · next d hd =>
        obtain ⟨rest, hrest, rfl⟩ := Option.map_eq_some_iff.1 h
        obtain ⟨first, hfirst, rfl⟩ := Option.map_eq_some_iff.1 hd
        have hrange := List.find?_some hfirst
        simp only [Bool.and_eq_true, decide_eq_true_eq] at hrange
        exact List.forall_mem_cons.2 ⟨by omega, ih hrest⟩
      · cases h

/-- A row of digits stays below the power of its length. -/
theorem foldl_lt {ds : List Nat} (h : ∀ d ∈ ds, d < 10) (n : Nat) :
    ds.foldl (fun n d => n * 10 + d) n < (n + 1) * 10 ^ ds.length := by
  induction ds generalizing n with
  | nil => simp
  | cons d ds ih =>
    have hd := h d (List.mem_cons_self ..)
    have hrest := ih (fun x hx => h x (List.mem_cons_of_mem _ hx)) (n * 10 + d)
    calc (d :: ds).foldl (fun n d => n * 10 + d) n
        < (n * 10 + d + 1) * 10 ^ ds.length := hrest
      _ ≤ ((n + 1) * 10) * 10 ^ ds.length := Nat.mul_le_mul_right _ (by omega)
      _ = (n + 1) * 10 ^ (d :: ds).length := by rw [List.length_cons, Nat.pow_succ, Nat.mul_assoc, Nat.mul_comm 10]

theorem digits?_of_isDigit {cs : List Char} (h : ∀ c ∈ cs, c.isDigit = true) {afterDigit : Bool}
    (hne : afterDigit = true ∨ cs ≠ []) : digits? afterDigit cs = some (cs.map Digits.value) := by
  have hcodes : ∀ n < 128, (Char.ofNat n).isDigit = true →
      digit? (Char.ofNat n) = some (Digits.value (Char.ofNat n)) ∧ Char.ofNat n ≠ '_' := by decide
  induction cs generalizing afterDigit with
  | nil =>
    rcases hne with rfl | hne
    · rfl
    · exact absurd rfl hne
  | cons c cs ih =>
    have hc := h c (List.mem_cons_self ..)
    have hascii : c.toNat < 128 := Digits.toNat_lt_of_isDigit hc
    obtain ⟨hvalue, hline⟩ := Ascii.forall_of_codes
      (p := fun c => c.isDigit = true → digit? c = some (Digits.value c) ∧ c ≠ '_') hcodes hascii hc
    rw [digits?, if_neg hline, hvalue, ih (fun x hx => h x (List.mem_cons_of_mem _ hx)) (.inl rfl)]
    rfl

/-- Numbers that are read are not too long to be read again. -/
theorem natAbs_lt_of_int? {cs : List Char} {n : Int} (h : int? cs = some n) : n.natAbs < 10 ^ maxDigits := by
  unfold int? at h
  simp only at h
  split at h
  · cases h
  · next ds hds =>
    split at h
    · cases h
    · next hlength =>
      have hvalue := foldl_lt (lt_of_digits? hds) 0
      have hpow : 10 ^ ds.length ≤ 10 ^ maxDigits := Nat.pow_le_pow_right (by decide) (Nat.not_lt.1 hlength)
      have hsign : ∀ (negative : Bool) (v : Nat), (if negative = true then -(v : Int) else v).natAbs = v := by
        intro negative v
        cases negative <;> simp
      rw [← Option.some.inj h, hsign]
      omega

theorem digits?_ofNat (n : Nat) : digits? false (Digits.ofNat n) = some ((Digits.ofNat n).map Digits.value) :=
  digits?_of_isDigit (fun _ hc => Nat.isDigit_of_mem_toDigits (by decide) (by decide) hc) (.inr Nat.toDigits_ne_nil)

theorem foldl_ofNat (n : Nat) : ((Digits.ofNat n).map Digits.value).foldl (fun n d => n * 10 + d) 0 = n := by
  rw [List.foldl_map]
  exact (Digits.number_eq_ofDigitChars _).trans Nat.ofDigitChars_ten_toDigits

theorem length_ofNat_le {n : Nat} (h : n < 10 ^ maxDigits) : ((Digits.ofNat n).map Digits.value).length ≤ maxDigits := by
  rw [List.length_map]
  exact Nat.toDigits_length 10 n maxDigits (by decide) h

/-- The characters of a number that is written. -/
theorem of_mem_ofInt {n : Int} {c : Char} (h : c ∈ Digits.ofInt n) : c = '-' ∨ c.isDigit = true := by
  cases n with
  | ofNat n => exact .inr (Nat.isDigit_of_mem_toDigits (by decide) (by decide) h)
  | negSucc n =>
    rcases List.mem_cons.1 h with rfl | h
    · exact .inl rfl
    · exact .inr (Nat.isDigit_of_mem_toDigits (by decide) (by decide) h)

/-- A number is written in characters that may stand in a port. -/
theorem plain_of_mem_ofInt {n : Int} {c : Char} (h : c ∈ Digits.ofInt n) :
    Url.isPlain c = true ∧ c ∉ ['/', '?', '#', '@', ']'] ∧ Blank.isBlank c = false := by
  have hcodes : ∀ n < 128, (Char.ofNat n).isDigit = true → Url.isPlain (Char.ofNat n) = true ∧
      Char.ofNat n ∉ ['/', '?', '#', '@', ']'] ∧ Blank.isBlank (Char.ofNat n) = false := by decide
  rcases of_mem_ofInt h with rfl | hc
  · decide
  · have hascii : c.toNat < 128 := Digits.toNat_lt_of_isDigit hc
    exact Ascii.forall_of_codes (p := fun c => c.isDigit = true → Url.isPlain c = true ∧
      c ∉ ['/', '?', '#', '@', ']'] ∧ Blank.isBlank c = false) hcodes hascii hc

/-- A number that is not too long is read as it was written. -/
theorem int?_ofInt {n : Int} (h : n.natAbs < 10 ^ maxDigits) : int? (Digits.ofInt n) = some n := by
  have hblank : ∀ c ∈ Digits.ofInt n, Blank.isBlank c = false := fun c hc => (plain_of_mem_ofInt hc).2.2
  have hfront : (Digits.ofInt n).dropWhile Blank.isBlank = Digits.ofInt n :=
    @Text.dropWhile_of_stop _ [] _ nofun fun c hc => hblank c (List.mem_of_head? hc)
  have hback : (Digits.ofInt n).reverse.dropWhile Blank.isBlank = (Digits.ofInt n).reverse :=
    @Text.dropWhile_of_stop _ [] _ nofun fun c hc => hblank c (List.mem_reverse.1 (List.mem_of_head? hc))
  have htrim : Blank.trim Blank.isBlank (Digits.ofInt n) = Digits.ofInt n := by
    rw [Blank.trim, hfront, hback, List.reverse_reverse]
  rw [int?, htrim]
  split
  next negative rest he =>
  -- only the sign is told apart from the digits
  have hsign : rest = Digits.ofNat n.natAbs ∧ (if negative = true then -(n.natAbs : Int) else n.natAbs) = n := by
    cases n with
    | ofNat n =>
      have hdigit : ∀ c ∈ Digits.ofInt (.ofNat n), c.isDigit = true := fun _ hc =>
        Nat.isDigit_of_mem_toDigits (by decide) (by decide) hc
      split at he
      · next hminus => exact absurd (hdigit '-' (by rw [hminus]; simp)) (by decide)
      · next hplus => exact absurd (hdigit '+' (by rw [hplus]; simp)) (by decide)
      · obtain ⟨rfl, rfl⟩ := Prod.mk.inj he
        exact ⟨rfl, rfl⟩
    | negSucc n =>
      obtain ⟨rfl, rfl⟩ := Prod.mk.inj he
      exact ⟨rfl, rfl⟩
  simp only [hsign.1, digits?_ofNat, foldl_ofNat, if_neg (Nat.not_lt.2 (length_ofNat_le h)), hsign.2]

end Numeral

namespace Text

theorem of_mem_cut (sep : Char) {cs : List Char} {c : Char} (h : c ∈ cs) : c = sep ∨ ∃ part ∈ cut sep cs, c ∈ part := by
  rw [← intercalate_cut sep cs] at h
  exact (Form.of_mem_intercalate h).imp_left List.mem_singleton.1

end Text

namespace Url

/-- The forms of a host that has been read. -/
inductive HostForm : List Char → Prop
  | ipv4 {cs : List Char} (h : isIpv4 cs = true) : HostForm cs
  | ipv6 {cs : List Char} (h : isIpv6 cs = true) (hplain : ∀ c ∈ cs, isPlain c = true ∧ c ∉ ['/', '?', '#', '@']) :
      HostForm cs
  | name {cs : List Char} (hne : cs ≠ []) (hkept : ∀ c ∈ cs, keptInName c = true)
      (hlower : '%' ∉ cs → ∀ c ∈ cs, c.toLower = c) (hname : looksNumeric cs = false) : HostForm cs

/-- A host as it stands in an authority. -/
def hostText (cs : List Char) : List Char :=
  if cs.contains ':' then '[' :: (cs ++ [']']) else cs

/-- A host that is read once more. -/
def rereadHost (cs : List Char) : List Char :=
  if cs.contains ':' then cs else cs.map Char.toLower

/-- The characters of an address of four numbers. -/
theorem of_mem_isIpv4 {cs : List Char} (h : isIpv4 cs = true) {c : Char} (hc : c ∈ cs) :
    keptInName c = true ∧ c.toLower = c := by
  have hcodes : ∀ n < 128, (Char.ofNat n).isDigit = true →
      keptInName (Char.ofNat n) = true ∧ (Char.ofNat n).toLower = Char.ofNat n := by decide
  rw [isIpv4, Bool.and_eq_true, List.all_eq_true] at h
  rcases Text.of_mem_cut '.' hc with rfl | ⟨part, hpart, hin⟩
  · decide
  · have hoctet := h.2 part hpart
    simp only [isOctet, Bool.and_eq_true, List.all_eq_true] at hoctet
    have hdigit : c.isDigit = true := hoctet.1.1.1.2 c hin
    have hascii : c.toNat < 128 := Digits.toNat_lt_of_isDigit hdigit
    exact Ascii.forall_of_codes
      (p := fun c => c.isDigit = true → keptInName c = true ∧ c.toLower = c) hcodes hascii hdigit

theorem map_toLower_of_isIpv4 {cs : List Char} (h : isIpv4 cs = true) : cs.map Char.toLower = cs :=
  (List.map_congr_left fun _ hc => (of_mem_isIpv4 h hc).2).trans (List.map_id' cs)

theorem colon_of_isIpv6 {cs : List Char} (h : isIpv6 cs = true) : ':' ∈ cs := by
  refine Decidable.byContradiction fun hcolon => ?_
  have hone : Text.cut ':' (cs.takeWhile (· != '%')) = [cs.takeWhile (· != '%')] :=
    Text.cut_of_not_mem fun hm => hcolon (List.takeWhile_subset _ hm)
  have hnone : groups? (cs.takeWhile (· != '%')) = none := by
    rw [groups?]
    simp [hone]
  simp [isIpv6, hnone] at h

theorem looksNumeric_of_isIpv4 {cs : List Char} (h : isIpv4 cs = true) : looksNumeric cs = true := by
  rw [isIpv4, Bool.and_eq_true, List.all_eq_true] at h
  rw [looksNumeric, Bool.and_eq_true, List.all_eq_true]
  refine ⟨h.1, fun part hpart => ?_⟩
  have hoctet := h.2 part hpart
  simp only [isOctet, Bool.and_eq_true] at hoctet ⊢
  exact hoctet.1.1.1

/-- What is written as four numbers has nothing but digits and points. -/
theorem of_mem_looksNumeric {cs : List Char} (h : looksNumeric cs = true) {c : Char} (hc : c ∈ cs) :
    c = '.' ∨ c.isDigit = true := by
  rw [looksNumeric, Bool.and_eq_true, List.all_eq_true] at h
  refine (Text.of_mem_cut '.' hc).imp_right fun ⟨part, hpart, hin⟩ => ?_
  have hdigits := h.2 part hpart
  rw [Bool.and_eq_true, List.all_eq_true] at hdigits
  exact hdigits.2 c hin

theorem looksNumeric_bracket (cs : List Char) : looksNumeric ('[' :: cs) = false :=
  Bool.eq_false_iff.2 fun h => absurd (of_mem_looksNumeric h (List.mem_cons_self ..)) (by decide)

/-- Small letters do not make a name look like numbers. -/
theorem looksNumeric_toLower {cs : List Char} (h : looksNumeric cs = false) :
    looksNumeric (cs.map Char.toLower) = false := by
  have hcodes : ∀ n < 128, (Char.ofNat n).toLower = '.' ∨ (Char.ofNat n).toLower.isDigit = true →
      (Char.ofNat n).toLower = Char.ofNat n := by decide
  have hself : ∀ c : Char, c.toLower = '.' ∨ c.toLower.isDigit = true → c.toLower = c := by
    intro c hc
    by_cases hascii : c.toNat < 128
    · exact Ascii.forall_of_codes
        (p := fun c => c.toLower = '.' ∨ c.toLower.isDigit = true → c.toLower = c) hcodes hascii hc
    · exact dif_neg fun hupper =>
        hascii (Nat.lt_of_le_of_lt (UInt32.le_iff_toNat_le.1 hupper.2) (by decide))
  refine Bool.eq_false_iff.2 fun hlooks => ?_
  have hsame : cs.map Char.toLower = cs :=
    (List.map_congr_left fun c hc => hself c (of_mem_looksNumeric hlooks (List.mem_map_of_mem hc))).trans (List.map_id' cs)
  rw [hsame, h] at hlooks
  cases hlooks

theorem keptInName_ascii {c : Char} (h : keptInName c = true) : c.toNat < 128 := by
  rw [keptInName, Bool.or_eq_true] at h
  rcases h with h | h
  · exact Percent.toNat_lt_of_unreserved h
  · have hlist : "!$&'()*+,;=\"`\x7b\x7d%|\\".toList.all (·.toNat < 128) = true := by decide
    exact of_decide_eq_true (List.all_eq_true.1 hlist c (List.contains_iff_mem.1 h))

/-- The characters of a name have no part in how an authority is cut, with small letters as well. -/
theorem plain_of_keptInName {c : Char} (h : keptInName c = true) :
    (isPlain c = true ∧ c ∉ ['/', '?', '#', '@']) ∧ c ≠ ':' ∧ c ≠ '[' ∧ keptInName c.toLower = true ∧
      c.toLower.toLower = c.toLower := by
  have hcodes : ∀ n < 128, keptInName (Char.ofNat n) = true →
      (isPlain (Char.ofNat n) = true ∧ Char.ofNat n ∉ ['/', '?', '#', '@']) ∧ Char.ofNat n ≠ ':' ∧ Char.ofNat n ≠ '[' ∧
        keptInName (Char.ofNat n).toLower = true ∧ (Char.ofNat n).toLower.toLower = (Char.ofNat n).toLower := by
    decide +kernel
  exact Ascii.forall_of_codes (p := fun c => keptInName c = true →
    (isPlain c = true ∧ c ∉ ['/', '?', '#', '@']) ∧ c ≠ ':' ∧ c ≠ '[' ∧ keptInName c.toLower = true ∧
      c.toLower.toLower = c.toLower) hcodes (keptInName_ascii h) h

section

variable {cs : List Char}

theorem HostForm.ne_nil (h : HostForm cs) : cs ≠ [] := by
  cases h with
  | ipv4 h =>
    rintro rfl
    exact absurd h (by decide)
  | ipv6 h hplain => exact List.ne_nil_of_mem (colon_of_isIpv6 h)
  | name hne hkept hlower hname => exact hne

theorem HostForm.plain (h : HostForm cs) : ∀ c ∈ cs, isPlain c = true ∧ c ∉ ['/', '?', '#', '@'] := by
  cases h with
  | ipv4 h => exact fun c hc => (plain_of_keptInName (of_mem_isIpv4 h hc).1).1
  | ipv6 h hplain => exact hplain
  | name hne hkept hlower hname => exact fun c hc => (plain_of_keptInName (hkept c hc)).1

/-- A host has colons only if it is an address of groups, and is kept in small letters otherwise. -/
theorem HostForm.cases_colon (h : HostForm cs) :
    ':' ∈ cs ∧ isIpv6 cs = true ∨
      ':' ∉ cs ∧ (∀ c ∈ cs, keptInName c = true) ∧ ('%' ∉ cs → ∀ c ∈ cs, c.toLower = c) := by
  cases h with
  | ipv4 h =>
    exact .inr ⟨fun hm => (plain_of_keptInName (of_mem_isIpv4 h hm).1).2.1 rfl, fun c hc => (of_mem_isIpv4 h hc).1,
      fun _ c hc => (of_mem_isIpv4 h hc).2⟩
  | ipv6 h hplain => exact .inl ⟨colon_of_isIpv6 h, h⟩
  | name hne hkept hlower hname => exact .inr ⟨fun hm => (plain_of_keptInName (hkept _ hm)).2.1 rfl, hkept, hlower⟩

theorem hostText_of_colon (h : ':' ∈ cs) : hostText cs = '[' :: (cs ++ [']']) := by
  simp [hostText, h]

theorem hostText_of_not_colon (h : ':' ∉ cs) : hostText cs = cs := by
  simp [hostText, h]

theorem rereadHost_of_colon (h : ':' ∈ cs) : rereadHost cs = cs := by
  simp [rereadHost, h]

theorem rereadHost_of_not_colon (h : ':' ∉ cs) : rereadHost cs = cs.map Char.toLower := by
  simp [rereadHost, h]

/-- A host that is kept in small letters, as it is read. -/
theorem readHost_of_kept (hne : cs ≠ []) (hkept : ∀ c ∈ cs, keptInName c = true) (hname : looksNumeric cs = false) :
    readHost cs = .ok (String.ofList (cs.map Char.toLower)) := by
  have hopen : cs.head? ≠ some '[' := fun he => (plain_of_keptInName (hkept '[' (List.mem_of_head? he))).2.2.1 rfl
  have hascii : cs.all (·.toNat < 0x80) = true :=
    List.all_eq_true.2 fun c hc => decide_eq_true (keptInName_ascii (hkept c hc))
  have hlow : Percent.encodeAround keptInName (cs.map Char.toLower) = cs.map Char.toLower := by
    refine Percent.encodeAround_of_kept fun c hc => ?_
    obtain ⟨x, hx, rfl⟩ := List.mem_map.1 hc
    exact (plain_of_keptInName (hkept x hx)).2.2.2.1
  simp [readHost, hne, hname, hopen, hascii, hlow]

/-- A host that was read is read again. -/
theorem HostForm.readHost_hostText (h : HostForm cs) : readHost (hostText cs) = .ok (String.ofList (rereadHost cs)) := by
  rcases h.cases_colon with ⟨hcolon, hsix⟩ | ⟨hcolon, -, -⟩
  · have hlast : ('[' :: (cs ++ [']'])).getLast? = some ']' := by
      rw [← List.cons_append, List.getLast?_concat]
    have hinner : (('[' :: (cs ++ [']'])).drop 1).dropLast = cs := by simp
    simp only [hostText_of_colon hcolon, rereadHost_of_colon hcolon, readHost, looksNumeric_bracket, hlast, hinner, hsix,
      List.isEmpty_cons, List.head?_cons, Bool.false_eq_true, and_self, if_false, if_true]
  · rw [hostText_of_not_colon hcolon, rereadHost_of_not_colon hcolon]
    cases h with
    | ipv4 h => simp [readHost, looksNumeric_of_isIpv4 h, h, map_toLower_of_isIpv4 h, (HostForm.ipv4 h).ne_nil]
    | ipv6 h hplain => exact absurd (colon_of_isIpv6 h) hcolon
    | name hne hkept hlower hname => exact readHost_of_kept hne hkept hname

/-- What is made of a host has no say in what is made of it the next time. -/
theorem HostForm.reread (h : HostForm cs) : HostForm (rereadHost cs) := by
  have hsix : ':' ∈ cs → HostForm (rereadHost cs) := fun hcolon => by rwa [rereadHost_of_colon hcolon]
  cases h with
  | ipv4 h =>
    have hcolon : ':' ∉ cs := fun hm => (plain_of_keptInName (of_mem_isIpv4 h hm).1).2.1 rfl
    rw [rereadHost_of_not_colon hcolon, map_toLower_of_isIpv4 h]
    exact .ipv4 h
  | ipv6 h hplain => exact hsix (colon_of_isIpv6 h)
  | name hne hkept hlower hname =>
    have hcolon : ':' ∉ cs := fun hm => (plain_of_keptInName (hkept _ hm)).2.1 rfl
    rw [rereadHost_of_not_colon hcolon]
    refine .name (by simpa using hne) (fun c hc => ?_) (fun _ c hc => ?_) (looksNumeric_toLower hname)
    · obtain ⟨x, hx, rfl⟩ := List.mem_map.1 hc
      exact (plain_of_keptInName (hkept x hx)).2.2.2.1
    · obtain ⟨x, hx, rfl⟩ := List.mem_map.1 hc
      exact (plain_of_keptInName (hkept x hx)).2.2.2.2

/-- A host that was read is cut out of an authority as it stands there. -/
theorem HostForm.isHostText (h : HostForm cs) : IsHostText (hostText cs) := by
  have hplain := h.plain
  rcases h.cases_colon with ⟨hcolon, -⟩ | ⟨hcolon, hkept, -⟩
  · rw [hostText_of_colon hcolon]
    refine ⟨by simp, fun c hc => ?_, .inl ⟨rfl, ?_⟩⟩
    · rw [List.mem_cons, List.mem_append, List.mem_singleton] at hc
      rcases hc with rfl | hc | rfl
      · decide
      · exact hplain c hc
      · decide
    · rw [← List.cons_append, List.getLast?_concat]
  · rw [hostText_of_not_colon hcolon]
    have hopen : cs.head? ≠ some '[' := fun he => (plain_of_keptInName (hkept '[' (List.mem_of_head? he))).2.2.1 rfl
    exact ⟨h.ne_nil, hplain, .inr ⟨hopen, hcolon⟩⟩

end

/-- A host that is read has one of its forms. -/
theorem hostForm_of_readHost {host : List Char} {name : String} (h : readHost host = .ok name) (hne : name ≠ "")
    (hplain : ∀ c ∈ host, c ∈ name.toList → isPlain c = true ∧ c ∉ ['/', '?', '#', '@']) : HostForm name.toList := by
  unfold readHost at h
  split at h
  · exact absurd (Except.ok.inj h).symm hne
  · split at h
    · split at h
      · next hfour =>
        obtain rfl := Except.ok.inj h
        rw [String.toList_ofList]
        exact .ipv4 hfour
      · cases h
    · next hname =>
      split at h
      · simp only at h
        split at h
        · next hsix =>
          obtain rfl := Except.ok.inj h
          rw [String.toList_ofList] at hplain ⊢
          refine .ipv6 hsix fun c hc => hplain c ?_ hc
          exact List.mem_of_mem_drop (List.dropLast_subset _ hc)
        · cases h
      · split at h
        · next hascii =>
          obtain rfl := Except.ok.inj h
          rw [String.toList_ofList]
          have hpercent : keptInName '%' = true := by decide
          have hdigit : ∀ c, Hex.isDigit c = true → keptInName c = true := fun c hc => by
            simp [keptInName, Percent.unreserved_of_isDigit hc]
          have hcodes : ∀ n < 128, (Char.ofNat n).toLower.toLower = (Char.ofNat n).toLower := by decide
          have hplain : ∀ cs, '%' ∉ Percent.encodeAround keptInName cs → Percent.encodeAround keptInName cs = cs := by
            intro cs hno
            rw [Percent.encodeAround_eq_encode hpercent hdigit] at hno ⊢
            exact Percent.encode_of_no_percent hno
          refine .name (fun he => hne (by rw [he])) (fun c => Percent.kept_of_mem_encodeAround hpercent hdigit)
            (fun hno c hc => ?_) ?_
          · rw [hplain _ hno] at hc
            obtain ⟨x, hx, rfl⟩ := List.mem_map.1 hc
            exact Ascii.forall_of_codes (p := fun c => c.toLower.toLower = c.toLower) hcodes
              (of_decide_eq_true (List.all_eq_true.1 hascii x hx))
          -- a name with an escape is no number, and one without is what it was
          · refine Bool.eq_false_iff.2 fun hlooks => ?_
            rw [hplain _ fun hm => absurd (of_mem_looksNumeric hlooks hm) (by decide),
              looksNumeric_toLower (by simpa using hname)] at hlooks
            cases hlooks
        · cases h

/-- A port as it stands in an authority. -/
def portText (port : Option Int) : List Char :=
  port.elim [] fun n => ':' :: Digits.ofInt n

/-- A port that was read is read again, and left out where the scheme stands for it. -/
theorem readPort_portText {port : Option Int} (h : ∀ n ∈ port, n.natAbs < 10 ^ Numeral.maxDigits) (scheme : List Char) :
    readPort scheme ((portText port).drop 1) = .ok (port.filter fun n => defaultPort? scheme != some n) := by
  cases port with
  | none => rfl
  | some n =>
    have hread : Numeral.int? (Digits.ofInt n) = some n := Numeral.int?_ofInt (h n rfl)
    have hempty : (Digits.ofInt n).isEmpty = false := by
      cases n with
      | ofNat n => exact List.isEmpty_eq_false_iff.2 Nat.toDigits_ne_nil
      | negSucc n => rfl
    simp only [portText, Option.elim_some, List.drop_one, List.tail_cons, readPort, hempty, hread, Bool.false_eq_true,
      if_false, Option.filter]
    by_cases hdefault : defaultPort? scheme = some n
    · simp [hdefault]
    · simp [hdefault]

theorem isPort_portText {port : Option Int} (h : ∀ n ∈ port, n.natAbs < 10 ^ Numeral.maxDigits) :
    IsPort (portText port) := by
  refine ⟨fun c hc => ?_, ?_, _, readPort_portText h _⟩
  · cases port with
    | none => cases hc
    | some n =>
      rcases List.mem_cons.1 hc with rfl | hc
      · decide
      · obtain ⟨hplain, hstops, -⟩ := Numeral.plain_of_mem_ofInt hc
        exact ⟨hplain, hstops⟩
  · cases port with
    | none => exact .inl rfl
    | some n => exact .inr ⟨_, rfl⟩

/-- The user information in front of a host is cut off. -/
theorem cutAuthorityParts_of_userinfo (userinfo : List Char) {rest : List Char} (h : '@' ∉ rest) :
    cutAuthorityParts (userinfo ++ '@' :: rest) = (userinfo, (cutAuthorityParts rest).2) := by
  have hat : ∀ c ∈ rest.reverse, (c != '@') = true := fun c hc =>
    bne_iff_ne.2 fun he => h (he ▸ List.mem_reverse.1 hc)
  have hstop : ∀ c, ('@' :: userinfo.reverse).head? = some c → (c != '@') = false := by
    intro c hc
    obtain rfl := Option.some.inj hc
    rfl
  have hbehind : ((userinfo ++ '@' :: rest).reverse.takeWhile (· != '@')).reverse = rest := by
    rw [List.reverse_append, List.reverse_cons, List.append_assoc, List.singleton_append,
      Text.takeWhile_of_stop hat hstop, List.reverse_reverse]
  have hbehind' : (rest.reverse.takeWhile (· != '@')).reverse = rest := by
    rw [List.takeWhile_eq_self_iff.2 hat, List.reverse_reverse]
  have htake : (userinfo ++ '@' :: rest).take ((userinfo ++ '@' :: rest).length - rest.length - 1) = userinfo := by
    have hlength : (userinfo ++ '@' :: rest).length - rest.length - 1 = userinfo.length := by
      rw [List.length_append, List.length_cons]
      omega
    rw [hlength, List.take_left']
    rfl
  simp only [cutAuthorityParts, hbehind, hbehind', htake]
  split <;> rfl

theorem toList_netloc (u : Url) : u.netloc.toList = hostText u.host.toList ++ portText u.port := by
  have hhost : (if u.host.toList.contains ':' then "[" ++ u.host ++ "]" else u.host).toList = hostText u.host.toList := by
    unfold hostText
    split
    · simp
    · rfl
  rw [netloc, String.toList_append, hhost]
  cases u.port with
  | none => rfl
  | some n => simp [portText]

theorem toList_authority (u : Url) :
    u.authority.toList =
      (if u.userinfo = "" then [] else u.userinfo.toList ++ ['@']) ++ (hostText u.host.toList ++ portText u.port) := by
  rw [authority, String.toList_append, toList_netloc]
  split
  · rfl
  · simp

end Url

end SignOn
