import SignOn.Proofs.Escapes

/-!
Segments of paths. Dot segments are taken away, and a path without them stays as it is; whether characters are escaped
before or after that makes no difference.
-/

namespace SignOn

namespace Text

variable {sep : Char}

theorem cut_cons_self (cs : List Char) : cut sep (sep :: cs) = [] :: cut sep cs := by
  rw [cut, if_pos rfl]

theorem cut_append_of_not_mem {a b first : List Char} {rest : List (List Char)} (ha : sep ∉ a)
    (hb : cut sep b = first :: rest) : cut sep (a ++ b) = (a ++ first) :: rest := by
  induction a with
  | nil => exact hb
  | cons c a ih =>
    obtain ⟨hc, ha⟩ := not_or.1 (fun hm => ha (List.mem_cons.2 hm))
    rw [List.cons_append, cut, if_neg (Ne.symm hc), ih ha]
    rfl

theorem cut_of_not_mem {cs : List Char} (h : sep ∉ cs) : cut sep cs = [cs] := by
  simpa using cut_append_of_not_mem h (cut_nil sep)

theorem cut_append_sep (a b : List Char) : cut sep (a ++ sep :: b) = cut sep a ++ cut sep b := by
  induction a with
  | nil => exact cut_cons_self b
  | cons c cs ih =>
    by_cases hc : c = sep
    · subst hc
      rw [List.cons_append, cut_cons_self, cut_cons_self, ih, List.cons_append]
    · rw [List.cons_append, cut, if_neg hc, ih, cut, if_neg hc]
      cases hparts : cut sep cs with
      | nil => exact absurd hparts (cut_ne_nil sep cs)
      | cons part parts => rfl

theorem not_mem_of_mem_cut {cs part : List Char} (h : part ∈ cut sep cs) : sep ∉ part := by
  induction cs generalizing part with
  | nil =>
    obtain rfl := List.mem_singleton.1 h
    simp
  | cons c cs ih =>
    by_cases hc : c = sep
    · subst hc
      rw [cut_cons_self] at h
      rcases List.mem_cons.1 h with rfl | h
      · simp
      · exact ih h
    · rw [cut, if_neg hc] at h
      cases hparts : cut sep cs with
      | nil => exact absurd hparts (cut_ne_nil sep cs)
      | cons first parts =>
        rw [hparts] at h ih
        rcases List.mem_cons.1 h with rfl | h
        · have hfirst := ih (List.mem_cons_self ..)
          simp [Ne.symm hc, hfirst]
        · exact ih (List.mem_cons_of_mem _ h)

/-- Cutting a text that was put together from parts gives the parts back. -/
theorem cut_intercalate {parts : List (List Char)} (hne : parts ≠ []) (hsep : ∀ part ∈ parts, sep ∉ part) :
    cut sep ([sep].intercalate parts) = parts := by
  induction parts with
  | nil => exact absurd rfl hne
  | cons part rest ih =>
    have hpart : sep ∉ part := hsep part (List.mem_cons_self ..)
    cases rest with
    | nil => simpa only [List.intercalate_singleton] using cut_of_not_mem hpart
    | cons second rest =>
      have hrest := ih (by simp) fun p hp => hsep p (List.mem_cons_of_mem _ hp)
      rw [List.intercalate_cons_cons, List.append_assoc, List.singleton_append, cut_append_sep,
        cut_of_not_mem hpart, hrest, List.singleton_append]

/-- A separator that is safe is cut at before or after the rest is escaped. -/
theorem cut_encode {safe : Char → Bool} (hsep : safe sep = true) (hhex : sep ≠ '%' ∧ ∀ n < 16, sep ≠ Hex.upper n)
    (cs : List Char) : cut sep (Percent.encode safe cs) = (cut sep cs).map (Percent.encode safe) := by
  have hchar : ∀ c, c ≠ sep → sep ∉ Percent.encode safe [c] := by
    intro c hc hm
    rcases Percent.of_mem_encode hm with ⟨-, hm⟩ | hm | ⟨n, hn, hm⟩
    · exact hc (List.mem_singleton.1 hm).symm
    · exact hhex.1 hm
    · exact hhex.2 n hn hm
  induction cs with
  | nil => rfl
  | cons c cs ih =>
    by_cases hc : c = sep
    · subst hc
      rw [Percent.encode_cons, Percent.encodeChar, if_pos hsep, List.singleton_append, cut_cons_self, ih,
        cut_cons_self, List.map_cons, Percent.encode_nil]
    · cases hparts : cut sep cs with
      | nil => exact absurd hparts (cut_ne_nil sep cs)
      | cons first rest =>
        rw [hparts, List.map_cons] at ih
        have hone : sep ∉ Percent.encodeChar safe c := by simpa using hchar c hc
        rw [Percent.encode_cons, cut_append_of_not_mem hone ih, cut, if_neg hc, hparts, List.map_cons,
          Percent.encode_cons]

end Text

namespace Url

/-- Whether a path has no dot segments. -/
def Dotless (path : List Char) : Prop :=
  ∀ segment ∈ Text.cut '/' path, segment ≠ ['.'] ∧ segment ≠ ['.', '.']

instance (path : List Char) : Decidable (Dotless path) :=
  inferInstanceAs (Decidable (∀ segment ∈ Text.cut '/' path, segment ≠ ['.'] ∧ segment ≠ ['.', '.']))

theorem dotless_append_slash (a b : List Char) : Dotless (a ++ '/' :: b) ↔ Dotless a ∧ Dotless b := by
  simp only [Dotless, Text.cut_append_sep, List.mem_append]
  constructor
  · intro h
    exact ⟨fun segment hs => h segment (.inl hs), fun segment hs => h segment (.inr hs)⟩
  · rintro ⟨ha, hb⟩ segment (hs | hs)
    · exact ha segment hs
    · exact hb segment hs

theorem removeDots_of_dotless {path : List Char} (h : Dotless path) : removeDots path = path := by
  have hone : ['.'] ∉ Text.cut '/' path := fun hm => (h _ hm).1 rfl
  have htwo : ['.', '.'] ∉ Text.cut '/' path := fun hm => (h _ hm).2 rfl
  simp [removeDots, hone, htwo]

theorem removeDots_of_not_dotless {path : List Char} (h : ¬Dotless path) :
    removeDots path = ['/'].intercalate ((Text.cut '/' path).foldl pushSegment []).reverse := by
  have hdots : ['.'] ∈ Text.cut '/' path ∨ ['.', '.'] ∈ Text.cut '/' path := by
    refine Decidable.byContradiction fun hn => h fun segment hs => ?_
    obtain ⟨hone, htwo⟩ := not_or.1 hn
    exact ⟨fun he => hone (he ▸ hs), fun he => htwo (he ▸ hs)⟩
  simp [removeDots, hdots]

/-- What the segments are taken onto has no dot segments but those that were there before. -/
theorem mem_foldl_pushSegment {segments done : List (List Char)} {x : List Char}
    (h : x ∈ segments.foldl pushSegment done) : x ∈ done ∨ x ∈ segments ∧ x ≠ ['.'] ∧ x ≠ ['.', '.'] := by
  induction segments generalizing done with
  | nil => exact .inl h
  | cons segment segments ih =>
    rcases ih h with hdone | ⟨hin, hdots⟩
    · rw [pushSegment] at hdone
      split at hdone
      · exact .inl hdone
      · next hone =>
        split at hdone
        · split at hdone
          · exact .inl hdone
          · exact .inl (List.mem_of_mem_drop hdone)
        · next htwo =>
          rcases List.mem_cons.1 hdone with rfl | hdone
          · exact .inr ⟨List.mem_cons_self .., hone, htwo⟩
          · exact .inl hdone
    · exact .inr ⟨List.mem_cons_of_mem _ hin, hdots⟩

/-- Taking dot segments away leaves none. -/
theorem dotless_removeDots (path : List Char) : Dotless (removeDots path) := by
  by_cases h : Dotless path
  · rwa [removeDots_of_dotless h]
  · have hleft : ∀ x ∈ ((Text.cut '/' path).foldl pushSegment []).reverse,
        x ∈ Text.cut '/' path ∧ x ≠ ['.'] ∧ x ≠ ['.', '.'] := by
      intro x hx
      rcases mem_foldl_pushSegment (List.mem_reverse.1 hx) with hnil | hx
      · cases hnil
      · exact hx
    rw [removeDots_of_not_dotless h]
    generalize ((Text.cut '/' path).foldl pushSegment []).reverse = left at hleft
    cases left with
    | nil => decide
    | cons first rest =>
      have hcut : Text.cut '/' (['/'].intercalate (first :: rest)) = first :: rest :=
        Text.cut_intercalate (List.cons_ne_nil first rest) fun part hp => Text.not_mem_of_mem_cut (hleft part hp).1
      intro segment hs
      rw [hcut] at hs
      exact (hleft segment hs).2

/-- A path stays as it is exactly if it has no dot segments. -/
theorem removeDots_eq_self_iff (path : List Char) : removeDots path = path ↔ Dotless path :=
  ⟨fun h => h ▸ dotless_removeDots path, removeDots_of_dotless⟩

section

variable {safe : Char → Bool}

theorem encode_intercalate (hslash : safe '/' = true) (parts : List (List Char)) :
    Percent.encode safe (['/'].intercalate parts) = ['/'].intercalate (parts.map (Percent.encode safe)) := by
  induction parts with
  | nil => rfl
  | cons part rest ih =>
    cases rest with
    | nil => simp only [List.intercalate_singleton, List.map_cons, List.map_nil]
    | cons second rest =>
      have hone : Percent.encode safe ['/'] = ['/'] := by simp [Percent.encodeChar, hslash]
      rw [List.intercalate_cons_cons, Percent.encode_append, Percent.encode_append, ih, hone]
      simp only [List.map_cons, List.intercalate_cons_cons]

/-- Dots stay dots, and nothing else comes to look like them. -/
theorem encode_eq_dots_iff (hdot : safe '.' = true) (hpercent : safe '%' = false) (segment : List Char) :
    (Percent.encode safe segment = ['.'] ↔ segment = ['.']) ∧
      (Percent.encode safe segment = ['.', '.'] ↔ segment = ['.', '.']) :=
  ⟨Percent.encode_eq_iff hpercent (by simp [hdot]), Percent.encode_eq_iff hpercent (by simp [hdot])⟩

/-- Taking segments off a path does not look into them, save for dots. -/
theorem foldl_pushSegment_encode (hdot : safe '.' = true) (hpercent : safe '%' = false)
    (segments done : List (List Char)) :
    (segments.map (Percent.encode safe)).foldl pushSegment (done.map (Percent.encode safe)) =
      (segments.foldl pushSegment done).map (Percent.encode safe) := by
  have hdots := encode_eq_dots_iff hdot hpercent
  have hempty : ∀ segment, Percent.encode safe segment = [] ↔ segment = [] := fun segment =>
    Percent.encode_eq_iff hpercent (by simp)
  have hroot : ∀ done : List (List Char), done.map (Percent.encode safe) = [[]] ↔ done = [[]] := by
    intro done
    cases done with
    | nil => simp
    | cons first rest => simp [hempty]
  induction segments generalizing done with
  | nil => rfl
  | cons segment segments ih =>
    have hpush : pushSegment (done.map (Percent.encode safe)) (Percent.encode safe segment) =
        (pushSegment done segment).map (Percent.encode safe) := by
      simp only [pushSegment, hdots, hroot]
      split
      · rfl
      · split
        · split
          · rfl
          · rw [List.map_drop]
        · rfl
    rw [List.map_cons, List.foldl_cons, hpush, ih, List.foldl_cons]

/-- Dot segments can be taken away before a path is escaped as well as after. -/
theorem removeDots_encode (hslash : safe '/' = true) (hdot : safe '.' = true) (hpercent : safe '%' = false)
    (path : List Char) : removeDots (Percent.encode safe path) = Percent.encode safe (removeDots path) := by
  have hcut := Text.cut_encode hslash (by decide) path
  have hfold := foldl_pushSegment_encode hdot hpercent (Text.cut '/' path) []
  have hdots : Dotless (Percent.encode safe path) ↔ Dotless path := by
    simp only [Dotless, hcut, List.forall_mem_map, ne_eq, encode_eq_dots_iff hdot hpercent]
  by_cases h : Dotless path
  · rw [removeDots_of_dotless h, removeDots_of_dotless (hdots.2 h)]
  · rw [removeDots_of_not_dotless h, removeDots_of_not_dotless (fun he => h (hdots.1 he)), encode_intercalate hslash,
      hcut, List.map_reverse, ← hfold, List.map_nil]

end

end Url

end SignOn
