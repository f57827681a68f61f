import Mathlib.Data.List.TakeWhile
import SignOn.Proofs.Segments
import SignOn.Settings.Basic

/-!
What values say: a text, a number or a list of names, in whichever form it is given. Each check of a field accepts just the
values that say something of its kind, and gives what they say.
-/

namespace SignOn

namespace Blank

variable {p : Char → Bool}

/-- Whether neither end of a text is in a class of characters. -/
def Bare (p : Char → Bool) (cs : List Char) : Prop :=
  (∀ c ∈ cs.head?, p c = false) ∧ ∀ c ∈ cs.getLast?, p c = false

theorem bare_of_forall {cs : List Char} (h : ∀ c ∈ cs, p c = false) : Bare p cs :=
  ⟨fun c hc => h c (List.mem_of_mem_head? hc), fun c hc => h c (List.mem_of_mem_getLast? hc)⟩

theorem head?_dropWhile (cs : List Char) : ∀ c ∈ (cs.dropWhile p).head?, p c = false := by
  intro c hc
  have hstop := List.head?_dropWhile_not p cs
  rw [Option.mem_def.1 hc] at hstop
  simpa using hstop

theorem dropWhile_eq_trim_append (p : Char → Bool) (cs : List Char) :
    cs.dropWhile p = trim p cs ++ ((cs.dropWhile p).reverse.takeWhile p).reverse := by
  rw [trim, ← List.reverse_append, List.takeWhile_append_dropWhile, List.reverse_reverse]

/-- A text is what trimming leaves of it, between characters of the class. -/
theorem exists_eq_append_trim (p : Char → Bool) (cs : List Char) :
    ∃ lead trail, (∀ c ∈ lead, p c = true) ∧ (∀ c ∈ trail, p c = true) ∧ cs = lead ++ (trim p cs ++ trail) := by
  refine ⟨cs.takeWhile p, ((cs.dropWhile p).reverse.takeWhile p).reverse, fun _ => List.mem_takeWhile_imp, ?_, ?_⟩
  · exact fun c hc => List.mem_takeWhile_imp (List.mem_reverse.1 hc)
  · rw [← dropWhile_eq_trim_append, List.takeWhile_append_dropWhile]

theorem length_trim_le (p : Char → Bool) (cs : List Char) : (trim p cs).length ≤ cs.length := by
  have hfront := congrArg List.length (dropWhile_eq_trim_append p cs)
  have hdrop := (List.dropWhile_sublist (p := p) (l := cs)).length_le
  rw [List.length_append] at hfront
  omega

theorem mem_of_mem_trim {cs : List Char} {c : Char} (h : c ∈ trim p cs) : c ∈ cs := by
  have hfront : c ∈ cs.dropWhile p := by
    rw [dropWhile_eq_trim_append]
    exact List.mem_append_left _ h
  exact (List.dropWhile_sublist p).subset hfront

theorem bare_trim (p : Char → Bool) (cs : List Char) : Bare p (trim p cs) := by
  refine ⟨?_, ?_⟩
  · intro c hc
    refine head?_dropWhile cs c ?_
    rw [dropWhile_eq_trim_append, List.head?_append, Option.mem_def.1 hc]
    rfl
  · intro c hc
    rw [trim, List.getLast?_reverse] at hc
    exact head?_dropWhile _ c hc

/-- A text between blanks, itself bare at its ends, is what is left of the whole. -/
theorem trim_of_bare {lead cs trail : List Char} (h : Bare p cs) (hne : cs ≠ []) (hlead : ∀ c ∈ lead, p c = true)
    (htrail : ∀ c ∈ trail, p c = true) : trim p (lead ++ (cs ++ trail)) = cs := by
  obtain ⟨hfirst, hlast⟩ := h
  have hfront : (lead ++ (cs ++ trail)).dropWhile p = cs ++ trail := by
    obtain ⟨first, more, rfl⟩ := List.exists_cons_of_ne_nil hne
    exact Text.dropWhile_of_stop hlead hfirst
  have hback : (trail.reverse ++ cs.reverse).dropWhile p = cs.reverse := by
    refine Text.dropWhile_of_stop (fun c hc => htrail c (List.mem_reverse.1 hc)) fun c hc => hlast c ?_
    rwa [List.head?_reverse] at hc
  rw [trim, hfront, List.reverse_append, hback, List.reverse_reverse]

theorem trim_eq_self_iff (cs : List Char) : trim p cs = cs ↔ Bare p cs := by
  constructor
  · intro h
    exact h ▸ bare_trim p cs
  · intro h
    rcases eq_or_ne cs [] with rfl | hne
    · rfl
    · have htrim : trim p ([] ++ (cs ++ [])) = cs := trim_of_bare h hne nofun nofun
      rwa [List.nil_append, List.append_nil] at htrim

end Blank

namespace Lenient

/-- Whether some characters are a sign: a minus sign, or else a plus sign or none. -/
inductive IsSign : Bool → List Char → Prop
  | none : IsSign false []
  | plus : IsSign false ['+']
  | minus : IsSign true ['-']

/-- Whether some characters are decimal digits. -/
def AreDigits (cs : List Char) : Prop :=
  ∀ c ∈ cs, c.isDigit = true

instance (cs : List Char) : Decidable (AreDigits cs) :=
  inferInstanceAs (Decidable (∀ c ∈ cs, c.isDigit = true))

/-- A number with its sign. -/
def signed (negative : Bool) (n : Nat) : Int :=
  if negative then -n else n

/-- Whether some characters write a whole number: digits behind a sign. -/
inductive IsInt : Int → List Char → Prop
  | digits {negative : Bool} {sign digits : List Char} (hsign : IsSign negative sign) (hne : digits ≠ [])
      (hdigits : AreDigits digits) : IsInt (signed negative (Digits.number digits)) (sign ++ digits)

/-- Whether some characters write an exponent: a whole number behind its mark, or none. -/
inductive IsExponent : Int → List Char → Prop
  | none : IsExponent 0 []
  | power {mark : Char} {n : Int} {cs : List Char} (hmark : mark = 'e' ∨ mark = 'E') (h : IsInt n cs) :
      IsExponent n (mark :: cs)

/-- Whether some characters are the digits of a number, in front of the point and behind it. -/
inductive IsMantissa : List Char → List Char → List Char → Prop
  | whole {digits : List Char} (hne : digits ≠ []) (hdigits : AreDigits digits) : IsMantissa digits [] digits
  | point {whole fraction : List Char} (hne : whole ≠ [] ∨ fraction ≠ []) (hwhole : AreDigits whole)
      (hfraction : AreDigits fraction) : IsMantissa whole fraction (whole ++ '.' :: fraction)

/-- Whether some characters write a floating-point number: one of the names for what is not finite, in any letter case,
or digits with a point and an exponent. -/
inductive IsReal : Binary64 → List Char → Prop
  | infinite {negative : Bool} {sign word : List Char} (hsign : IsSign negative sign)
      (hword : word.map Char.toLower ∈ ["inf".toList, "infinity".toList]) : IsReal (.infinite negative) (sign ++ word)
  | notANumber {negative : Bool} {sign word : List Char} (hsign : IsSign negative sign)
      (hword : word.map Char.toLower = "nan".toList) : IsReal .notANumber (sign ++ word)
  | decimal {negative : Bool} {sign whole fraction mantissa exponent : List Char} {power : Int}
      (hsign : IsSign negative sign) (hmantissa : IsMantissa whole fraction mantissa)
      (hexponent : IsExponent power exponent) :
      IsReal (Binary64.ofDecimal negative (Digits.number (whole ++ fraction)) (power - fraction.length))
        (sign ++ (mantissa ++ exponent))

/-- Whether low lines stand among some characters, all of them inside and none next to another. -/
structure IsLined (cs : List Char) : Prop where
  some : '_' ∈ cs
  front : cs.head? ≠ Option.some '_'
  back : cs.getLast? ≠ Option.some '_'
  single : ¬['_', '_'] <:+: cs

/-- Whether some characters write a floating-point number, between white space or with low lines inside. -/
def WritesReal (cs : List Char) (x : Binary64) : Prop :=
  (∃ lead body trail, (∀ c ∈ lead, Blank.isSpace c = true) ∧ IsReal x body ∧ (∀ c ∈ trail, Blank.isSpace c = true) ∧
    cs = lead ++ (body ++ trail)) ∨
    IsLined cs ∧ IsReal x (cs.filter (· != '_'))

/-- Whether some characters are nothing, or a point and zeros behind it. -/
def AreZeros (cs : List Char) : Prop :=
  cs = [] ∨ ∃ zeros, (∀ c ∈ zeros, c = '0') ∧ cs = '.' :: zeros

/-- Whether some characters write a whole number: digits behind a sign, perhaps with low lines inside, in front of a point
and zeros or of nothing, and all of it between white space. -/
def WritesInt (cs : List Char) (n : Int) : Prop :=
  ∃ lead body zeros trail, (∀ c ∈ lead, Blank.isSpace c = true) ∧
    (IsInt n body ∨ IsLined body ∧ IsInt n (body.filter (· != '_'))) ∧ AreZeros zeros ∧
    (∀ c ∈ trail, Blank.isSpace c = true) ∧ cs = lead ++ ((body ++ zeros) ++ trail)

section Signs

variable {negative : Bool} {sign rest : List Char}

theorem takeSign_spec (cs : List Char) : ∃ sign, IsSign (takeSign cs).1 sign ∧ cs = sign ++ (takeSign cs).2 := by
  unfold takeSign
  split
  · exact ⟨_, .minus, rfl⟩
  · exact ⟨_, .plus, rfl⟩
  · exact ⟨_, .none, rfl⟩

theorem takeSign_append (h : IsSign negative sign) (hrest : ∀ c, rest.head? = some c → c ≠ '-' ∧ c ≠ '+') :
    takeSign (sign ++ rest) = (negative, rest) := by
  cases h with
  | none =>
    cases rest with
    | nil => rfl
    | cons c rest =>
      obtain ⟨hminus, hplus⟩ := hrest c rfl
      simp [takeSign, hminus, hplus]
  | plus | minus => rfl

theorem AreDigits.unsigned {digits : List Char} (h : AreDigits digits) :
    ∀ c, digits.head? = some c → c ≠ '-' ∧ c ≠ '+' := by
  intro c hc
  have hdigit := h c (List.mem_of_mem_head? hc)
  constructor
  · rintro rfl
    cases hdigit
  · rintro rfl
    cases hdigit

end Signs

theorem strictInt?_eq_some_iff (cs : List Char) (n : Int) : strictInt? cs = some n ↔ IsInt n cs := by
  have hif : strictInt? cs = if (takeSign cs).2 ≠ [] ∧ AreDigits (takeSign cs).2
      then some (signed (takeSign cs).1 (Digits.number (takeSign cs).2)) else none := by
    simp only [strictInt?, AreDigits, signed, Bool.not_eq_true', List.isEmpty_eq_false_iff, List.all_eq_true]
    congr
  rw [hif]
  constructor
  · intro h
    obtain ⟨sign, hsign, hcs⟩ := takeSign_spec cs
    split at h
    · next hdigits =>
      have hint := IsInt.digits hsign hdigits.1 hdigits.2
      rwa [← hcs, Option.some.inj h] at hint
    · cases h
  · rintro ⟨hsign, hne, hdigits⟩
    rw [takeSign_append hsign hdigits.unsigned, if_pos ⟨hne, hdigits⟩]

theorem exponent?_eq_some_iff (cs : List Char) (n : Int) : exponent? cs = some n ↔ IsExponent n cs := by
  cases cs with
  | nil =>
    constructor
    · intro h
      obtain rfl := Option.some.inj h
      exact .none
    · rintro ⟨⟩
      rfl
  | cons mark cs =>
    have hif : exponent? (mark :: cs) = if mark = 'e' ∨ mark = 'E' then strictInt? cs else none := by
      unfold exponent? strictInt?
      by_cases hmark : mark = 'e' ∨ mark = 'E' <;> simp [hmark]
    rw [hif]
    constructor
    · intro h
      split at h
      · next hmark => exact .power hmark ((strictInt?_eq_some_iff cs n).1 h)
      · cases h
    · rintro ⟨⟩
      next hmark h => rw [if_pos hmark, (strictInt?_eq_some_iff cs n).2 h]

/-- What stands in front of an exponent ends where the exponent begins. -/
theorem IsExponent.stop {n : Int} {cs : List Char} (h : IsExponent n cs) :
    ∀ c, cs.head? = some c → c.isDigit = false ∧ c ≠ '.' := by
  intro c hc
  cases h with
  | none => cases hc
  | power hmark =>
    obtain rfl := Option.some.inj hc
    rcases hmark with rfl | rfl <;> decide

theorem exists_span (cs : List Char) :
    AreDigits (Digits.span cs).1 ∧ cs = (Digits.span cs).1 ++ (Digits.span cs).2 := by
  rw [Digits.span, List.span_eq_takeWhile_dropWhile]
  exact ⟨fun c => List.mem_takeWhile_imp, List.takeWhile_append_dropWhile.symm⟩

theorem span_of_digits {digits rest : List Char} (h : AreDigits digits)
    (hstop : ∀ c, rest.head? = some c → c.isDigit = false) : Digits.span (digits ++ rest) = (digits, rest) :=
  Text.span_of_stop h hstop

/-- Behind the digits in front come a point with digits, or else nothing of the number but its exponent. -/
theorem behindPoint_cases (cs : List Char) :
    (behindPoint cs = ([], cs) ∧ cs.head? ≠ some '.') ∨
      ∃ fraction rest, behindPoint cs = (fraction, rest) ∧ AreDigits fraction ∧ cs = '.' :: (fraction ++ rest) := by
  unfold behindPoint
  split
  · next cs =>
    obtain ⟨hdigits, hcs⟩ := exists_span cs
    exact .inr ⟨_, _, rfl, hdigits, congrArg _ hcs⟩
  · next hno =>
    refine .inl ⟨rfl, fun hpoint => ?_⟩
    obtain ⟨more, rfl⟩ := List.head?_eq_some_iff.1 hpoint
    exact hno more rfl

theorem behindPoint_of_exponent {n : Int} {exponent : List Char} (h : IsExponent n exponent) :
    behindPoint exponent = ([], exponent) := by
  rcases behindPoint_cases exponent with ⟨hnone, -⟩ | ⟨_, _, -, -, rfl⟩
  · exact hnone
  · exact absurd rfl (h.stop '.' rfl).2

theorem decimal?_eq_some_iff (negative : Bool) (cs : List Char) (x : Binary64) :
    decimal? negative cs = some x ↔ ∃ whole fraction mantissa power exponent, IsMantissa whole fraction mantissa ∧
      IsExponent power exponent ∧ cs = mantissa ++ exponent ∧
        Binary64.ofDecimal negative (Digits.number (whole ++ fraction)) (power - fraction.length) = x := by
  have hif : decimal? negative cs =
      if (Digits.span cs).1 = [] ∧ (behindPoint (Digits.span cs).2).1 = [] then none
      else (exponent? (behindPoint (Digits.span cs).2).2).map fun power =>
        Binary64.ofDecimal negative (Digits.number ((Digits.span cs).1 ++ (behindPoint (Digits.span cs).2).1))
          (power - (behindPoint (Digits.span cs).2).1.length) := by
    simp [decimal?]
  rw [hif]
  constructor
  · intro h
    split at h
    · cases h
    · next hne =>
      obtain ⟨power, hpower, hx⟩ := Option.map_eq_some_iff.1 h
      have hexponent := (exponent?_eq_some_iff ..).1 hpower
      obtain ⟨hwhole, hcs⟩ := exists_span cs
      rcases behindPoint_cases (Digits.span cs).2 with ⟨hnone, -⟩ | ⟨fraction, rest, hsome, hfraction, hrest⟩
      · rw [hnone] at hne hexponent hx
        exact ⟨_, _, _, power, _, .whole (fun he => hne ⟨he, rfl⟩) hwhole, hexponent, hcs, hx⟩
      · rw [hsome] at hne hexponent hx
        refine ⟨_, _, _, power, _, .point (not_and_or.1 hne) hwhole hfraction, hexponent, ?_, hx⟩
        rw [List.append_assoc, List.cons_append, ← hrest]
        exact hcs
  · rintro ⟨whole, fraction, mantissa, power, exponent, hmantissa, hexponent, rfl, rfl⟩
    have hpower := (exponent?_eq_some_iff ..).2 hexponent
    cases hmantissa with
    | whole hne hdigits =>
      rw [span_of_digits hdigits fun c hc => (hexponent.stop c hc).1]
      dsimp only
      rw [behindPoint_of_exponent hexponent, if_neg (fun h => hne h.1)]
      dsimp only
      rw [hpower]
      rfl
    | point hne hwhole hfraction =>
      have hspan : Digits.span ((whole ++ '.' :: fraction) ++ exponent) = (whole, '.' :: (fraction ++ exponent)) := by
        rw [List.append_assoc, List.cons_append]
        refine span_of_digits hwhole fun c hc => ?_
        obtain rfl := Option.some.inj hc
        decide
      have hbehind : behindPoint ('.' :: (fraction ++ exponent)) = (fraction, exponent) :=
        span_of_digits hfraction fun c hc => (hexponent.stop c hc).1
      rw [hspan]
      dsimp only
      rw [hbehind, if_neg (not_and_or.2 hne)]
      dsimp only
      rw [hpower]
      rfl

/-- Whether a character is neither white space nor a low line. -/
def IsPlain (c : Char) : Prop :=
  Blank.isSpace c = false ∧ c ≠ '_'

instance (c : Char) : Decidable (IsPlain c) :=
  inferInstanceAs (Decidable (_ ∧ _))

theorem isPlain_of_isDigit {c : Char} (h : c.isDigit = true) : IsPlain c := by
  have hcodes : ∀ n < 128, (Char.ofNat n).isDigit = true → IsPlain (Char.ofNat n) := by decide
  have hascii : c.toNat < 128 := Percent.toNat_lt_of_unreserved (by simp [Percent.unreserved, Char.isAlphanum, h])
  exact Ascii.forall_of_codes (p := fun c => c.isDigit = true → IsPlain c) hcodes hascii h

section Names

/-- The names for what is not finite, and their letters. -/
def names : List (List Char) :=
  ["inf".toList, "infinity".toList, "nan".toList]

def nameLetters : List Char :=
  names.flatten

theorem toLower_eq_self_or (c : Char) : c.toLower = c ∨ c.isUpper = true := by
  by_cases h : c.val ≥ 'A'.val ∧ c.val ≤ 'Z'.val
  · exact .inr (decide_eq_true h)
  · exact .inl (dif_neg h)

theorem of_toLower_mem {c : Char} (h : c.toLower ∈ nameLetters) :
    IsPlain c ∧ c ≠ '-' ∧ c ≠ '+' ∧ c ≠ '.' ∧ c.isDigit = false := by
  have hcodes : ∀ n < 128, (Char.ofNat n).toLower ∈ nameLetters → IsPlain (Char.ofNat n) ∧ Char.ofNat n ≠ '-' ∧
      Char.ofNat n ≠ '+' ∧ Char.ofNat n ≠ '.' ∧ (Char.ofNat n).isDigit = false := by decide
  have hascii : c.toNat < 128 := by
    rcases toLower_eq_self_or c with hself | hupper
    · have hletters : nameLetters.all (·.toNat < 128) = true := by decide
      simpa using List.all_eq_true.1 hletters c (hself ▸ h)
    · have halpha : c.isAlpha = true := by
        show (c.isUpper || c.isLower) = true
        rw [hupper, Bool.true_or]
      exact Percent.toNat_lt_of_unreserved (by simp [Percent.unreserved, Char.isAlphanum, halpha])
  exact Ascii.forall_of_codes (p := fun c => c.toLower ∈ nameLetters → IsPlain c ∧ c ≠ '-' ∧ c ≠ '+' ∧ c ≠ '.' ∧
    c.isDigit = false) hcodes hascii h

theorem toLower_mem_of_name {word name : List Char} (hname : name ∈ names) (h : word.map Char.toLower = name) :
    ∀ c ∈ word, c.toLower ∈ nameLetters :=
  fun _ hc => List.mem_flatten.2 ⟨name, hname, h ▸ List.mem_map_of_mem hc⟩

theorem unsigned_of_name {word name : List Char} (hname : name ∈ names) (h : word.map Char.toLower = name) :
    ∀ c, word.head? = some c → c ≠ '-' ∧ c ≠ '+' := by
  intro c hc
  obtain ⟨-, hminus, hplus, -⟩ := of_toLower_mem (toLower_mem_of_name hname h c (List.mem_of_mem_head? hc))
  exact ⟨hminus, hplus⟩

end Names

section Reals

variable {whole fraction mantissa exponent : List Char}

theorem IsMantissa.head (h : IsMantissa whole fraction mantissa) :
    ∃ c more, mantissa = c :: more ∧ (c.isDigit = true ∨ c = '.') := by
  cases h with
  | whole hne hdigits =>
    obtain ⟨c, more, rfl⟩ := List.exists_cons_of_ne_nil hne
    exact ⟨c, more, rfl, .inl (hdigits c (List.mem_cons_self ..))⟩
  | point hne hwhole hfraction =>
    cases whole with
    | nil => exact ⟨_, _, rfl, .inr rfl⟩
    | cons c more => exact ⟨c, _, rfl, .inl (hwhole c (List.mem_cons_self ..))⟩

theorem IsMantissa.unsigned (h : IsMantissa whole fraction mantissa) :
    ∀ c, (mantissa ++ exponent).head? = some c → c ≠ '-' ∧ c ≠ '+' := by
  obtain ⟨c, more, rfl, hc⟩ := h.head
  intro d hd
  obtain rfl := Option.some.inj hd
  rcases hc with hdigit | rfl
  · constructor
    · rintro rfl
      cases hdigit
    · rintro rfl
      cases hdigit
  · decide

/-- No name for what is not finite begins like digits, or like their point. -/
theorem IsMantissa.ne_name (h : IsMantissa whole fraction mantissa) :
    ∀ name ∈ names, (mantissa ++ exponent).map Char.toLower ≠ name := by
  intro name hname heq
  obtain ⟨c, more, rfl, hc⟩ := h.head
  obtain ⟨-, -, -, hpoint, hdigit⟩ := of_toLower_mem (toLower_mem_of_name hname heq c (List.mem_cons_self ..))
  rcases hc with hc | hc
  · rw [hc] at hdigit
    cases hdigit
  · exact hpoint hc

theorem strictReal?_eq_some_iff (cs : List Char) (x : Binary64) : strictReal? cs = some x ↔ IsReal x cs := by
  have hname : ∀ (word : List Char) (name : String),
      String.ofList (word.map Char.toLower) = name ↔ word.map Char.toLower = name.toList := by
    intro word name
    rw [← String.toList_inj, String.toList_ofList]
  constructor
  · intro h
    obtain ⟨sign, hsign, hcs⟩ := takeSign_spec cs
    rw [strictReal?] at h
    dsimp only at h
    simp only [hname] at h
    rw [hcs]
    split at h
    · next hword =>
      obtain rfl := Option.some.inj h
      exact .infinite hsign (by simpa using hword)
    · split at h
      · next hword =>
        obtain rfl := Option.some.inj h
        exact .notANumber hsign hword
      · obtain ⟨whole, fraction, mantissa, power, exponent, hmantissa, hexponent, hbody, rfl⟩ :=
          (decimal?_eq_some_iff ..).1 h
        rw [hbody]
        exact .decimal hsign hmantissa hexponent
  · intro h
    cases h with
    | @infinite negative sign word hsign hword =>
      have hfits : word.map Char.toLower = "inf".toList ∨ word.map Char.toLower = "infinity".toList := by
        simpa using hword
      have hunsigned : ∀ c, word.head? = some c → c ≠ '-' ∧ c ≠ '+' := by
        rcases hfits with hfits | hfits
        · exact unsigned_of_name (by decide) hfits
        · exact unsigned_of_name (by decide) hfits
      rw [strictReal?, takeSign_append hsign hunsigned]
      dsimp only
      simp only [hname]
      rw [if_pos hfits]
    | @notANumber negative sign word hsign hword =>
      rw [strictReal?, takeSign_append hsign (unsigned_of_name (by decide) hword)]
      dsimp only
      simp only [hname]
      rw [hword]
      rfl
    | decimal hsign hmantissa hexponent =>
      rw [strictReal?, takeSign_append hsign hmantissa.unsigned]
      dsimp only
      simp only [hname]
      rw [if_neg, if_neg (hmantissa.ne_name _ (by decide))]
      · exact (decimal?_eq_some_iff ..).2 ⟨_, _, _, _, _, hmantissa, hexponent, rfl, rfl⟩
      · exact not_or.2 ⟨hmantissa.ne_name _ (by decide), hmantissa.ne_name _ (by decide)⟩

end Reals

section Plainness

theorem IsSign.isPlain {negative : Bool} {sign : List Char} (h : IsSign negative sign) : ∀ c ∈ sign, IsPlain c := by
  cases h with
  | none => exact List.forall_mem_nil _
  | plus | minus => exact List.forall_mem_singleton.2 (by decide)

theorem AreDigits.isPlain {digits : List Char} (h : AreDigits digits) : ∀ c ∈ digits, IsPlain c :=
  fun c hc => isPlain_of_isDigit (h c hc)

theorem IsInt.isPlain {n : Int} {cs : List Char} (h : IsInt n cs) : ∀ c ∈ cs, IsPlain c := by
  obtain ⟨hsign, -, hdigits⟩ := h
  exact List.forall_mem_append.2 ⟨hsign.isPlain, hdigits.isPlain⟩

theorem IsExponent.isPlain {n : Int} {cs : List Char} (h : IsExponent n cs) : ∀ c ∈ cs, IsPlain c := by
  cases h with
  | none => exact List.forall_mem_nil _
  | power hmark h =>
    refine List.forall_mem_cons.2 ⟨?_, h.isPlain⟩
    rcases hmark with rfl | rfl <;> decide

theorem IsMantissa.isPlain {whole fraction mantissa : List Char} (h : IsMantissa whole fraction mantissa) :
    ∀ c ∈ mantissa, IsPlain c := by
  cases h with
  | whole hne hdigits => exact hdigits.isPlain
  | point hne hwhole hfraction =>
    exact List.forall_mem_append.2 ⟨hwhole.isPlain, List.forall_mem_cons.2 ⟨by decide, hfraction.isPlain⟩⟩

theorem IsReal.ne_nil {x : Binary64} {cs : List Char} (h : IsReal x cs) : cs ≠ [] := by
  rintro rfl
  have hread := (strictReal?_eq_some_iff [] x).2 h
  cases hread

/-- A number has neither white space nor low lines. -/
theorem IsReal.isPlain {x : Binary64} {cs : List Char} (h : IsReal x cs) : ∀ c ∈ cs, IsPlain c := by
  cases h with
  | @infinite negative sign word hsign hword =>
    refine List.forall_mem_append.2 ⟨hsign.isPlain, fun c hc => (of_toLower_mem ?_).1⟩
    exact List.mem_flatten.2 ⟨_, List.mem_of_mem_take (i := 2) hword, List.mem_map_of_mem hc⟩
  | notANumber hsign hword =>
    refine List.forall_mem_append.2 ⟨hsign.isPlain, fun c hc => (of_toLower_mem ?_).1⟩
    exact toLower_mem_of_name (by decide) hword c hc
  | decimal hsign hmantissa hexponent =>
    exact List.forall_mem_append.2 ⟨hsign.isPlain, List.forall_mem_append.2 ⟨hmantissa.isPlain, hexponent.isPlain⟩⟩

end Plainness

section Lines

theorem doubled_iff (cs : List Char) :
    ((cs.zip (cs.drop 1)).any fun p => p.1 == '_' && p.2 == '_') = true ↔ ['_', '_'] <:+: cs := by
  induction cs with
  | nil => simp
  | cons c cs ih =>
    rw [List.infix_cons_iff, ← ih]
    cases cs with
    | nil => simp [List.cons_prefix_cons]
    | cons d cs => simp [List.cons_prefix_cons, @eq_comm _ '_']

theorem withoutLines?_eq_some_iff (cs ds : List Char) :
    withoutLines? cs = some ds ↔ IsLined cs ∧ cs.filter (· != '_') = ds := by
  have hrefused : (!cs.contains '_' || cs.head? == some '_' || cs.getLast? == some '_' ||
      (cs.zip (cs.drop 1)).any fun p => p.1 == '_' && p.2 == '_') = true ↔ ¬IsLined cs := by
    rw [Bool.or_eq_true, doubled_iff]
    constructor
    · rintro h ⟨hsome, hfront, hback, hsingle⟩
      simp [hsome, hfront, hback, hsingle] at h
    · intro h
      by_contra hno
      simp only [Bool.or_eq_true, Bool.not_eq_true', beq_iff_eq, not_or, List.contains_eq_mem, decide_eq_false_iff_not,
        not_not] at hno
      exact h ⟨hno.1.1.1, hno.1.1.2, hno.1.2, hno.2⟩
  unfold withoutLines?
  dsimp only
  by_cases h : IsLined cs
  · rw [if_neg (fun hno => hrefused.1 hno h)]
    simp [h]
  · rw [if_pos (hrefused.2 h)]
    simp [h]

end Lines

/-- What white space or low lines do not change is what stands between them. -/
theorem real?_eq_some_iff (cs : List Char) (x : Binary64) : real? cs = some x ↔ WritesReal cs x := by
  have hbetween : strictReal? (Blank.trim Blank.isSpace cs) = some x ↔ ∃ lead body trail,
      (∀ c ∈ lead, Blank.isSpace c = true) ∧ IsReal x body ∧ (∀ c ∈ trail, Blank.isSpace c = true) ∧
        cs = lead ++ (body ++ trail) := by
    rw [strictReal?_eq_some_iff]
    constructor
    · intro h
      obtain ⟨lead, trail, hlead, htrail, hcs⟩ := Blank.exists_eq_append_trim Blank.isSpace cs
      exact ⟨lead, _, trail, hlead, h, htrail, hcs⟩
    · rintro ⟨lead, body, trail, hlead, hbody, htrail, rfl⟩
      have hbare : Blank.Bare Blank.isSpace body := Blank.bare_of_forall fun c hc => (hbody.isPlain c hc).1
      rwa [Blank.trim_of_bare hbare hbody.ne_nil hlead htrail]
  unfold real? WritesReal
  rw [← hbetween]
  cases hstrict : strictReal? (Blank.trim Blank.isSpace cs) with
  | some y =>
    -- a number without low lines leaves none in the whole
    have hplain := ((strictReal?_eq_some_iff ..).1 hstrict).isPlain
    have hno : ¬IsLined cs := by
      rintro ⟨hsome, -⟩
      obtain ⟨lead, trail, hlead, htrail, hcs⟩ := Blank.exists_eq_append_trim Blank.isSpace cs
      rw [hcs] at hsome
      rcases List.mem_append.1 hsome with hin | hin
      · exact absurd (hlead _ hin) (by decide)
      · rcases List.mem_append.1 hin with hin | hin
        · exact (hplain _ hin).2 rfl
        · exact absurd (htrail _ hin) (by decide)
    simp [hno]
  | none =>
    rw [Option.bind_eq_some_iff]
    simp only [withoutLines?_eq_some_iff, strictReal?_eq_some_iff, reduceCtorEq, false_or]
    constructor
    · rintro ⟨_, ⟨hlined, rfl⟩, hreal⟩
      exact ⟨hlined, hreal⟩
    · rintro ⟨hlined, hreal⟩
      exact ⟨_, ⟨hlined, rfl⟩, hreal⟩

section Zeros

theorem withoutZeros_spec (cs : List Char) : ∃ zeros, AreZeros zeros ∧ cs = withoutZeros cs ++ zeros := by
  have hcs : cs.takeWhile (· != '.') ++ cs.dropWhile (· != '.') = cs := List.takeWhile_append_dropWhile
  have hdrop : cs.drop (cs.takeWhile (· != '.')).length = cs.dropWhile (· != '.') :=
    (congrArg (List.drop _) hcs).symm.trans List.drop_left
  unfold withoutZeros
  dsimp only
  rw [hdrop]
  split
  · next hzeros =>
    refine ⟨_, ?_, hcs.symm⟩
    cases hrest : cs.dropWhile (· != '.') with
    | nil => exact .inl rfl
    | cons c rest =>
      have hpoint : c = '.' := by
        have hstop := List.head?_dropWhile_not (· != '.') cs
        rw [hrest] at hstop
        simpa using hstop
      rw [hrest] at hzeros
      exact .inr ⟨rest, by simpa using hzeros, by rw [hpoint]⟩
  · exact ⟨[], .inl rfl, (List.append_nil cs).symm⟩

theorem withoutZeros_append {body zeros : List Char} (hbody : '.' ∉ body) (hzeros : AreZeros zeros) :
    withoutZeros (body ++ zeros) = body := by
  have hwhole : (body ++ zeros).takeWhile (· != '.') = body := by
    refine Text.takeWhile_of_stop (fun c hc => ?_) fun c hc => ?_
    · simpa using fun h : c = '.' => hbody (h ▸ hc)
    · rcases hzeros with rfl | ⟨more, -, rfl⟩
      · cases hc
      · obtain rfl := Option.some.inj hc
        rfl
  have hmore : ((zeros.drop 1).all (· == '0')) = true := by
    rcases hzeros with rfl | ⟨more, hmore, rfl⟩
    · rfl
    · simpa using hmore
  unfold withoutZeros
  dsimp only
  rw [hwhole, List.drop_left, if_pos hmore]

end Zeros

/-- A whole number with low lines is one without them once they are taken out. -/
theorem linedInt_eq_some_iff (cs : List Char) (n : Int) :
    (strictInt? cs).or ((withoutLines? cs).bind strictInt?) = some n ↔
      IsInt n cs ∨ IsLined cs ∧ IsInt n (cs.filter (· != '_')) := by
  cases hstrict : strictInt? cs with
  | some m =>
    have hint := (strictInt?_eq_some_iff cs m).1 hstrict
    have hno : ¬IsLined cs := fun hlined => (hint.isPlain _ hlined.some).2 rfl
    rw [← strictInt?_eq_some_iff, hstrict]
    simp [hno]
  | none =>
    rw [Option.none_or, Option.bind_eq_some_iff, ← strictInt?_eq_some_iff, hstrict]
    simp only [withoutLines?_eq_some_iff, strictInt?_eq_some_iff, reduceCtorEq, false_or]
    constructor
    · rintro ⟨_, ⟨hlined, rfl⟩, hint⟩
      exact ⟨hlined, hint⟩
    · rintro ⟨hlined, hint⟩
      exact ⟨_, ⟨hlined, rfl⟩, hint⟩

/-- Neither white space nor a point stands in a whole number, with or without low lines. -/
theorem plain_of_int {n : Int} {body : List Char} (h : IsInt n body ∨ IsLined body ∧ IsInt n (body.filter (· != '_'))) :
    body ≠ [] ∧ ∀ c ∈ body, Blank.isSpace c = false ∧ c ≠ '.' := by
  have hint : ∀ cs, IsInt n cs → cs ≠ [] ∧ ∀ c ∈ cs, Blank.isSpace c = false ∧ c ≠ '.' := by
    rintro _ ⟨hsign, hne, hdigits⟩
    refine ⟨fun h => hne (List.append_eq_nil_iff.1 h).2, List.forall_mem_append.2 ⟨?_, fun c hc => ?_⟩⟩
    · cases hsign with
      | none => exact List.forall_mem_nil _
      | plus | minus => exact List.forall_mem_singleton.2 (by decide)
    · refine ⟨(isPlain_of_isDigit (hdigits c hc)).1, ?_⟩
      rintro rfl
      cases hdigits _ hc
  rcases h with h | ⟨hlined, h⟩
  · exact hint body h
  · refine ⟨List.ne_nil_of_mem hlined.some, fun c hc => ?_⟩
    by_cases hline : c = '_'
    · rw [hline]
      decide
    · exact (hint _ h).2 c (List.mem_filter.2 ⟨hc, by simpa using hline⟩)

theorem int?_eq_some_iff (cs : List Char) (n : Int) : int? cs = some n ↔ WritesInt cs n := by
  have hor : int? cs = (strictInt? (withoutZeros (Blank.trim Blank.isSpace cs))).or
      ((withoutLines? (withoutZeros (Blank.trim Blank.isSpace cs))).bind strictInt?) := by
    unfold int?
    dsimp only
    cases strictInt? (withoutZeros (Blank.trim Blank.isSpace cs)) <;> rfl
  rw [hor, linedInt_eq_some_iff]
  constructor
  · intro h
    obtain ⟨lead, trail, hlead, htrail, hcs⟩ := Blank.exists_eq_append_trim Blank.isSpace cs
    obtain ⟨zeros, hzeros, hbody⟩ := withoutZeros_spec (Blank.trim Blank.isSpace cs)
    exact ⟨lead, _, zeros, trail, hlead, h, hzeros, htrail, hbody ▸ hcs⟩
  · rintro ⟨lead, body, zeros, trail, hlead, hint, hzeros, htrail, rfl⟩
    obtain ⟨hne, hplain⟩ := plain_of_int hint
    have hspaceless : ∀ c ∈ body ++ zeros, Blank.isSpace c = false := by
      refine List.forall_mem_append.2 ⟨fun c hc => (hplain c hc).1, fun c hc => ?_⟩
      rcases hzeros with rfl | ⟨more, hmore, rfl⟩
      · cases hc
      · rcases List.mem_cons.1 hc with rfl | hc
        · decide
        · rw [hmore c hc]
          decide
    have htrim : Blank.trim Blank.isSpace (lead ++ ((body ++ zeros) ++ trail)) = body ++ zeros :=
      Blank.trim_of_bare (Blank.bare_of_forall hspaceless) (fun h => hne (List.append_eq_nil_iff.1 h).1) hlead htrail
    rwa [htrim, withoutZeros_append (fun h => (hplain _ h).2 rfl) hzeros]

end Lenient

namespace Json

/-- What a value says as a text. -/
def SaysText (v : Json) (s : String) : Prop :=
  v = .str s

/-- What a value says as a text that may be missing. -/
inductive SaysOptionalText : Json → Option String → Prop
  | missing : SaysOptionalText .null none
  | text (s : String) : SaysOptionalText (.str s) (some s)

/-- What a value says as a floating-point number. -/
inductive SaysReal : Json → Binary64 → Prop
  | real (x : Binary64) : SaysReal (.real x) x
  | int {i : Int} (h : (Binary64.ofInt i).isFinite = true) : SaysReal (.int i) (Binary64.ofInt i)
  | truth (b : Bool) : SaysReal (.bool b) (Binary64.ofInt (if b then 1 else 0))
  | text {s : String} {x : Binary64} (h : Lenient.WritesReal s.toList x) : SaysReal (.str s) x

/-- What a value says as a whole number. A floating-point number says one when its fraction comes out even. -/
inductive SaysInt : Json → Int → Prop
  | int (i : Int) : SaysInt (.int i) i
  | truth (b : Bool) : SaysInt (.bool b) (if b then 1 else 0)
  | real {negative : Bool} {rank : Fin Binary64.ranks} {n : Nat}
      (h : (Binary64.fraction rank).1 = n * (Binary64.fraction rank).2) :
      SaysInt (.real (.finite negative rank)) (Lenient.signed negative n)
  | text {s : String} {i : Int} (h : Lenient.WritesInt s.toList i) : SaysInt (.str s) i

/-- What a value says as a list of names: an array of them, the text of such an array, or a text with commas between them.
Names between commas count without white space at their ends, and do not count when they are empty. -/
inductive SaysNames : Json → List Text → Prop
  | array (names : List Text) : SaysNames (.arr (names.map .str)) names
  | arrayText {text : String} {names : List Text} {body : List Char}
      (hbody : Blank.trim Blank.isBlank text.toList = '[' :: body)
      (hread : read ('[' :: body) = .ok (.arr (names.map .str))) : SaysNames (.str text) names
  | commas {text : String} {names : List String} {parts : List (List Char)}
      (hopen : (Blank.trim Blank.isBlank text.toList).head? ≠ some '[') (hne : parts ≠ [])
      (hcommas : ∀ part ∈ parts, ',' ∉ part)
      (hparts : [','].intercalate parts = Blank.trim Blank.isBlank text.toList)
      (hnames : names.map String.toList = (parts.map (Blank.trim Blank.isBlank)).filter (· ≠ [])) :
      SaysNames (.str text) (names.map .whole)

end Json

namespace Field

theorem wholeText_eq_valid_iff (v : Json) (s : String) : wholeText v = .valid s ↔ v.SaysText s := by
  cases v with
  | str t => cases t <;> simp [wholeText, Checked.refuse, Json.SaysText]
  | _ => simp [wholeText, Checked.refuse, Json.SaysText]

theorem optionalWholeText_eq_valid_iff (v : Json) (o : Option String) :
    optionalWholeText v = .valid o ↔ v.SaysOptionalText o := by
  constructor
  · intro h
    cases v with
    | null =>
      obtain rfl := Checked.valid.inj h
      exact .missing
    | str s =>
      cases s with
      | whole s =>
        obtain rfl := Checked.valid.inj h
        exact .text s
      | torn => cases h
    | _ => cases h
  · rintro (_ | _) <;> rfl

theorem real_eq_valid_iff (v : Json) (x : Binary64) : real v = .valid x ↔ v.SaysReal x := by
  constructor
  · intro h
    cases v with
    | real y =>
      obtain rfl := Checked.valid.inj h
      exact .real y
    | int i =>
      rw [real] at h
      split at h
      · next hfinite =>
        obtain rfl := Checked.valid.inj h
        exact .int hfinite
      · cases h
    | bool b =>
      obtain rfl := Checked.valid.inj h
      exact .truth b
    | str s =>
      cases s with
      | torn => cases h
      | whole s =>
        rw [real] at h
        split at h
        · next hread =>
          obtain rfl := Checked.valid.inj h
          exact .text ((Lenient.real?_eq_some_iff ..).1 hread)
        · cases h
    | _ => cases h
  · intro h
    cases h with
    | real | truth => rfl
    | int hfinite => rw [real, if_pos hfinite]
    | text htext => rw [real, (Lenient.real?_eq_some_iff ..).2 htext]

theorem toInt?_finite_eq_some_iff (negative : Bool) (rank : Fin Binary64.ranks) (i : Int) :
    (Binary64.finite negative rank).toInt? = some i ↔
      ∃ n, (Binary64.fraction rank).1 = n * (Binary64.fraction rank).2 ∧ Lenient.signed negative n = i := by
  have hpositive : 0 < (Binary64.fraction rank).2 := by
    unfold Binary64.fraction
    split
    · exact Nat.pow_pos (by decide)
    · exact Nat.one_pos
  unfold Binary64.toInt? Lenient.signed
  dsimp only
  constructor
  · intro h
    split at h
    · next hwhole =>
      exact ⟨_, (Nat.div_mul_cancel (Nat.dvd_of_mod_eq_zero hwhole)).symm, Option.some.inj h⟩
    · cases h
  · rintro ⟨n, hwhole, rfl⟩
    rw [hwhole, Nat.mul_mod_left, if_pos rfl, Nat.mul_div_cancel _ hpositive]

theorem int_eq_valid_iff (v : Json) (i : Int) : int v = .valid i ↔ v.SaysInt i := by
  have hfinite : ∀ negative rank, (Binary64.finite negative rank).isFinite = true := fun _ _ => rfl
  constructor
  · intro h
    cases v with
    | int j =>
      obtain rfl := Checked.valid.inj h
      exact .int j
    | bool b =>
      obtain rfl := Checked.valid.inj h
      exact .truth b
    | real x =>
      cases x with
      | finite negative rank =>
        rw [int, if_pos (hfinite ..)] at h
        split at h
        · next hread =>
          obtain rfl := Checked.valid.inj h
          obtain ⟨n, hwhole, rfl⟩ := (toInt?_finite_eq_some_iff ..).1 hread
          exact .real hwhole
        · cases h
      | infinite | notANumber => cases h
    | str s =>
      cases s with
      | torn => cases h
      | whole s =>
        rw [int] at h
        split at h
        · next hread =>
          obtain rfl := Checked.valid.inj h
          exact .text ((Lenient.int?_eq_some_iff ..).1 hread)
        · cases h
    | _ => cases h
  · intro h
    cases h with
    | int | truth => rfl
    | real hwhole => rw [int, if_pos (hfinite ..), (toInt?_finite_eq_some_iff ..).2 ⟨_, hwhole, rfl⟩]
    | text htext => rw [int, (Lenient.int?_eq_some_iff ..).2 htext]

/-- Items that are checked as texts are these texts. -/
theorem items_text_eq_valid_iff (first : Nat) (vs : List Json) (names : List Text) :
    items text first vs = .valid names ↔ vs = names.map .str := by
  induction vs generalizing first names with
  | nil => cases names <;> simp [items]
  | cons v vs ih =>
    simp only [items, Checked.seq_eq_valid_iff, Checked.map_eq_valid_iff, Checked.within_eq_valid_iff, ih]
    constructor
    · rintro ⟨_, rest, ⟨name, hname, rfl⟩, rfl, rfl⟩
      cases v with
      | str s =>
        obtain rfl : s = name := by simpa [text] using hname
        rfl
      | _ => cases hname
    · intro h
      cases names with
      | nil => cases h
      | cons name names =>
        obtain ⟨rfl, rfl⟩ := List.cons.inj h
        exact ⟨_, _, ⟨_, rfl, rfl⟩, rfl, rfl⟩

end Field

namespace Settings

theorem texts_eq_valid_iff (otherwise : Violation.Kind) (v : Json) (names : List Text) :
    Field.texts otherwise v = .valid names ↔ v = Json.ofTexts names := by
  cases v with
  | arr vs => simp [Field.texts, Field.items_text_eq_valid_iff, Json.ofTexts]
  | _ => simp [Field.texts, Checked.refuse, Json.ofTexts]

theorem readGroups_str_iff (text : String) (names : List Text) :
    readGroups (.str text) = .valid names ↔ AllowList.read text = .ok (Json.ofTexts names) := by
  cases hread : AllowList.read text with
  | error fault => simp [readGroups, hread, Checked.refuse]
  | ok v => simp [readGroups, hread, texts_eq_valid_iff]

/-- Names between commas are the parts that are left when the text is cut at them. -/
theorem split_eq_iff (cs : List Char) (names : List String) :
    AllowList.split cs = names ↔ ∃ parts, parts ≠ [] ∧ (∀ part ∈ parts, ',' ∉ part) ∧ [','].intercalate parts = cs ∧
      names.map String.toList = (parts.map (Blank.trim Blank.isBlank)).filter (· ≠ []) := by
  have hsplit : AllowList.split cs = names ↔ names.map String.toList =
      ((Text.cut ',' cs).map (Blank.trim Blank.isBlank)).filter (· ≠ []) := by
    have hfilter : ∀ parts : List (List Char), parts.filter (!·.isEmpty) = parts.filter (· ≠ []) := by
      refine fun parts => List.filter_congr fun part _ => ?_
      cases part <;> rfl
    rw [AllowList.split, hfilter]
    constructor
    · rintro rfl
      simp [Function.comp_def]
    · intro h
      rw [← h]
      simp [Function.comp_def]
  rw [hsplit]
  constructor
  · intro h
    exact ⟨_, Text.cut_ne_nil ',' cs, fun _ => Text.not_mem_of_mem_cut, Text.intercalate_cut ',' cs, h⟩
  · rintro ⟨parts, hne, hcommas, rfl, h⟩
    rwa [Text.cut_intercalate hne hcommas]

theorem readGroups_eq_valid_iff (v : Json) (names : List Text) : readGroups v = .valid names ↔ v.SaysNames names := by
  constructor
  · intro h
    cases v with
    | str text =>
      cases text with
      | torn => cases h
      | whole text =>
        rw [readGroups_str_iff, AllowList.read] at h
        split at h
        · next hopen =>
          obtain ⟨body, hbody⟩ := List.head?_eq_some_iff.1 hopen
          exact .arrayText hbody (hbody ▸ h)
        · next hopen =>
          obtain rfl := (List.map_inj_right fun _ _ h => Json.str.inj h).1 (Json.arr.inj (Except.ok.inj h))
          obtain ⟨parts, hne, hcommas, hparts, hkept⟩ := (split_eq_iff ..).1 rfl
          exact .commas hopen hne hcommas hparts hkept
    | arr vs =>
      obtain rfl := Json.arr.inj ((texts_eq_valid_iff .notList _ names).1 h)
      exact .array names
    | _ => cases h
  · intro h
    cases h with
    | array => exact (texts_eq_valid_iff .notList _ names).2 rfl
    | arrayText hbody hread =>
      rw [readGroups_str_iff, AllowList.read, hbody, List.head?_cons, if_pos rfl, hread]
      rfl
    | commas hopen hne hcommas hparts hnames =>
      rw [readGroups_str_iff, AllowList.read, if_neg hopen, (split_eq_iff _ _).2 ⟨_, hne, hcommas, hparts, hnames⟩]

end Settings

end SignOn
