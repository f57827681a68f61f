import Mathlib.Data.List.TakeWhile
import SignOn.Proofs.Answers
import SignOn.Proofs.Hosts
import SignOn.Url.Derived

/-!
What an address looks like once it has been read, and what reading its parts again makes of it. The parts stay as they
are, save that escapes in a name get small letters and the port of a scheme is left out; only a name that has come to
look like four numbers is refused.
-/

namespace SignOn

namespace Url

/-- Whether a path is empty or begins at the root. -/
def Rooted (path : List Char) : Prop :=
  path = [] ∨ path.head? = some '/'

/-- Taking segments away never takes away the root. -/
theorem foldl_pushSegment_root (segments more : List (List Char)) :
    ∃ left, segments.foldl pushSegment (more ++ [[]]) = left ++ [[]] := by
  induction segments generalizing more with
  | nil => exact ⟨more, rfl⟩
  | cons segment segments ih =>
    have hpush : ∃ left, pushSegment (more ++ [[]]) segment = left ++ [[]] := by
      rw [pushSegment]
      split
      · exact ⟨more, rfl⟩
      · split
        · split
          · exact ⟨more, rfl⟩
          · next hroot =>
            cases more with
            | nil => exact absurd rfl hroot
            | cons first more => exact ⟨more, rfl⟩
        · exact ⟨segment :: more, rfl⟩
    obtain ⟨left, hleft⟩ := hpush
    rw [List.foldl_cons, hleft]
    exact ih left

theorem rooted_removeDots {path : List Char} (h : Rooted path) : Rooted (removeDots path) := by
  by_cases hdots : Dotless path
  · rwa [removeDots_of_dotless hdots]
  · rcases h with rfl | hroot
    · exact absurd (by decide) hdots
    · obtain ⟨rest, rfl⟩ : ∃ rest, path = '/' :: rest := by
        cases path with
        | nil => cases hroot
        | cons c rest => exact ⟨rest, by rw [Option.some.inj hroot]⟩
      obtain ⟨left, hleft⟩ := foldl_pushSegment_root (Text.cut '/' rest) []
      have hempty : pushSegment [] [] = [[]] := by decide
      have hfold : (Text.cut '/' ('/' :: rest)).foldl pushSegment [] = left ++ [[]] := by
        rw [Text.cut_cons_self, List.foldl_cons, hempty]
        exact hleft
      rw [removeDots_of_not_dotless hdots, hfold, List.reverse_append, List.reverse_singleton, List.singleton_append]
      cases left.reverse with
      | nil => exact .inl rfl
      | cons first more =>
        rw [List.intercalate_cons_cons]
        exact .inr rfl

section

variable {kept : Char → Bool}

/-- Quoting brings no dot segments into a path. -/
theorem dotless_encode (hslash : kept '/' = true) {path : List Char} (h : Dotless path) :
    Dotless (Percent.encode kept path) := by
  intro segment hs
  rw [Text.cut_encode hslash (by decide)] at hs
  obtain ⟨part, hpart, rfl⟩ := List.mem_map.1 hs
  obtain ⟨hone, htwo⟩ := h part hpart
  have hsame : ∀ dots, '%' ∉ dots → Percent.encode kept part = dots → part = dots := by
    rintro dots hno rfl
    exact (Percent.encode_of_no_percent hno).symm
  exact ⟨fun he => hone (hsame _ (by decide) he), fun he => htwo (hsame _ (by decide) he)⟩

theorem rooted_encode (hslash : kept '/' = true) {path : List Char} (h : Rooted path) :
    Rooted (Percent.encode kept path) := by
  cases path with
  | nil => exact .inl rfl
  | cons c path =>
    obtain rfl : c = '/' := by simpa [Rooted] using h
    exact .inr (by simp [Percent.encodeChar, hslash])

end

theorem toNat_lt_of_isPlain {c : Char} (h : isPlain c = true) : c.toNat < 128 := by
  simp only [isPlain, Bool.and_eq_true, decide_eq_true_eq] at h
  omega

theorem plain_of_keptInPath {c : Char} (h : keptInPath c = true) : isPlain c = true ∧ c ∉ ['?', '#'] := by
  have hplain : isPlain c = true := ((Bool.and_eq_true _ _).mp h).1
  have hcodes : ∀ n < 128, keptInPath (Char.ofNat n) = true → Char.ofNat n ∉ ['?', '#'] := by decide
  exact ⟨hplain, Ascii.forall_of_codes (p := fun c => keptInPath c = true → c ∉ ['?', '#']) hcodes
    (toNat_lt_of_isPlain hplain) h⟩

theorem plain_of_keptInUserinfo {c : Char} (h : keptInUserinfo c = true) :
    isPlain c = true ∧ c ∉ ['/', '?', '#', '@'] := by
  have hplain : isPlain c = true := (plain_of_keptInPath ((Bool.and_eq_true _ _).mp h).1).1
  have hcodes : ∀ n < 128, keptInUserinfo (Char.ofNat n) = true → Char.ofNat n ∉ ['/', '?', '#', '@'] := by decide
  exact ⟨hplain, Ascii.forall_of_codes (p := fun c => keptInUserinfo c = true → c ∉ ['/', '?', '#', '@']) hcodes
    (toNat_lt_of_isPlain hplain) h⟩

theorem plain_of_isSchemeChar {c : Char} (h : isSchemeChar c = true) :
    (isPlain c = true ∧ c ∉ ['/', '?', '#', '@']) ∧ isSchemeChar c.toLower = true ∧ c.toLower.toLower = c.toLower := by
  have hascii : c.toNat < 128 := by
    simp only [isSchemeChar, Bool.or_eq_true, beq_iff_eq] at h
    rcases h with ((h | rfl) | rfl) | rfl
    · exact Percent.toNat_lt_of_unreserved (by simp [Percent.unreserved, h])
    all_goals decide
  have hcodes : ∀ n < 128, isSchemeChar (Char.ofNat n) = true →
      (isPlain (Char.ofNat n) = true ∧ Char.ofNat n ∉ ['/', '?', '#', '@']) ∧
        isSchemeChar (Char.ofNat n).toLower = true ∧ (Char.ofNat n).toLower.toLower = (Char.ofNat n).toLower := by
    decide +kernel
  exact Ascii.forall_of_codes (p := fun c => isSchemeChar c = true → (isPlain c = true ∧ c ∉ ['/', '?', '#', '@']) ∧
    isSchemeChar c.toLower = true ∧ c.toLower.toLower = c.toLower) hcodes hascii h

/-- Percent signs and digits are kept in every part that is quoted. -/
theorem kept_escapes :
    (keptInUserinfo '%' = true ∧ ∀ c, Hex.isDigit c = true → keptInUserinfo c = true) ∧
      (keptInPath '%' = true ∧ ∀ c, Hex.isDigit c = true → keptInPath c = true) ∧
      (keptInQuery '%' = true ∧ ∀ c, Hex.isDigit c = true → keptInQuery c = true) ∧
      (keptInFragment '%' = true ∧ ∀ c, Hex.isDigit c = true → keptInFragment c = true) := by
  have hcodes : ∀ n < 128, Percent.unreserved (Char.ofNat n) = true → keptInUserinfo (Char.ofNat n) = true ∧
      keptInPath (Char.ofNat n) = true ∧ keptInQuery (Char.ofNat n) = true ∧ keptInFragment (Char.ofNat n) = true := by
    decide +kernel
  have hdigit : ∀ c, Hex.isDigit c = true →
      keptInUserinfo c = true ∧ keptInPath c = true ∧ keptInQuery c = true ∧ keptInFragment c = true := by
    intro c hc
    have hunreserved := Percent.unreserved_of_isDigit hc
    exact Ascii.forall_of_codes (p := fun c => Percent.unreserved c = true → keptInUserinfo c = true ∧
      keptInPath c = true ∧ keptInQuery c = true ∧ keptInFragment c = true) hcodes
      (Percent.toNat_lt_of_unreserved hunreserved) hunreserved
  exact ⟨⟨by decide, fun c hc => (hdigit c hc).1⟩, ⟨by decide, fun c hc => (hdigit c hc).2.1⟩,
    ⟨by decide, fun c hc => (hdigit c hc).2.2.1⟩, ⟨by decide, fun c hc => (hdigit c hc).2.2.2⟩⟩

/-- What holds of the parts of an absolute address that has been read. -/
structure Settled (u : Url) : Prop where
  absolute : u.scheme ≠ ""
  scheme : ∀ c ∈ u.scheme.toList, isSchemeChar c = true ∧ c.toLower = c
  userinfo : ∀ c ∈ u.userinfo.toList, keptInUserinfo c = true
  host : HostForm u.host.toList
  port : ∀ n ∈ u.port, n.natAbs < 10 ^ Numeral.maxDigits
  path : ∀ c ∈ u.path.toList, keptInPath c = true
  dotless : Dotless u.path.toList
  rooted : Rooted u.path.toList
  fragment : ∀ f ∈ u.fragment, ∀ c ∈ f.toList, keptInFragment c = true

/-- What reading the parts of a settled address again makes of them, with a query of its own. -/
def reread (u : Url) (query : Option String) : Url :=
  { u with
    host := String.ofList (rereadHost u.host.toList)
    port := u.port.filter fun n => defaultPort? u.scheme.toList != some n
    query := query.map fun q => String.ofList (Percent.encodeAround keptInQuery q.toList) }

namespace Settled

variable {u : Url}

theorem reread (h : Settled u) (query : Option String) : Settled (u.reread query) where
  absolute := h.absolute
  scheme := h.scheme
  userinfo := h.userinfo
  host := by
    rw [Url.reread, String.toList_ofList]
    exact h.host.reread
  port n hn := h.port n (Option.filter_eq_some_iff.1 hn).1
  path := h.path
  dotless := h.dotless
  rooted := h.rooted
  fragment := h.fragment

/-- The host and the port of an authority, behind the user information. -/
theorem plain_netloc (h : Settled u) :
    ∀ c ∈ hostText u.host.toList ++ portText u.port, isPlain c = true ∧ c ∉ ['/', '?', '#', '@'] := by
  intro c hc
  rcases List.mem_append.1 hc with hc | hc
  · exact h.host.isHostText.plain c hc
  · have hport := (isPort_portText h.port).plain c hc
    simp_all

theorem plain_authority (h : Settled u) : ∀ c ∈ u.authority.toList, isPlain c = true ∧ c ∉ ['/', '?', '#'] := by
  intro c hc
  rw [toList_authority, List.mem_append] at hc
  rcases hc with hc | hc
  · split at hc
    · cases hc
    · rcases List.mem_append.1 hc with hc | hc
      · have huser := plain_of_keptInUserinfo (h.userinfo c hc)
        simp_all
      · obtain rfl := List.mem_singleton.1 hc
        decide
  · have hnetloc := h.plain_netloc c hc
    simp_all

theorem cut_authority (h : Settled u) :
    cutAuthorityParts u.authority.toList = (u.userinfo.toList, hostText u.host.toList, (portText u.port).drop 1) := by
  have hcut := cutAuthorityParts_of_isHostText h.host.isHostText (isPort_portText h.port)
  have hat : '@' ∉ hostText u.host.toList ++ portText u.port := fun hm => (h.plain_netloc _ hm).2 (by decide)
  rw [toList_authority]
  split
  · next hnone =>
    rw [List.nil_append, hcut, hnone]
    rfl
  · rw [List.append_assoc, List.singleton_append, cutAuthorityParts_of_userinfo _ hat, hcut]

/-- The parts of a settled address are read again. -/
theorem ofParts (h : Settled u) (query : Option String) :
    Url.ofParts ⟨u.scheme.toList, u.authority.toList, u.path.toList, query.map (·.toList), u.fragment.map (·.toList)⟩ =
      .ok (u.reread query) := by
  have hhost := h.host.readHost_hostText
  have huser : Percent.encodeAround keptInUserinfo u.userinfo.toList = u.userinfo.toList :=
    Percent.encodeAround_of_kept h.userinfo
  have hport := readPort_portText h.port u.scheme.toList
  have hscheme : u.scheme.toList.isEmpty = false :=
    List.isEmpty_eq_false_iff.2 fun he => h.absolute (String.toList_eq_nil_iff.1 he)
  have hname : (String.ofList (rereadHost u.host.toList) != "") = true := by
    have hne := h.host.reread.ne_nil
    rw [bne_iff_ne]
    intro he
    exact hne (by simpa using congrArg String.toList he)
  have hpath : checkPath true true u.path.toList = .ok () := by
    rcases h.rooted with hroot | hroot
    · simp [checkPath, hroot]
    · simp [checkPath, hroot]
  have hlower : String.ofList (u.scheme.toList.map Char.toLower) = u.scheme := by
    rw [(List.map_congr_left fun c hc => (h.scheme c hc).2).trans (List.map_id' _), String.ofList_toList]
  have hkept : String.ofList (Percent.encodeAround keptInPath u.path.toList) = u.path := by
    rw [Percent.encodeAround_of_kept h.path, String.ofList_toList]
  have hfragment : (u.fragment.map (·.toList)).map
      (fun f => String.ofList (Percent.encodeAround keptInFragment f)) = u.fragment := by
    cases hf : u.fragment with
    | none => rfl
    | some f =>
      have hsame := Percent.encodeAround_of_kept (h.fragment f hf)
      simp [hsame]
  simp only [Url.ofParts, h.cut_authority, hhost, huser, hport, hscheme, hname, hpath, hlower, hkept, hfragment,
    removeDots_of_dotless h.dotless, Bool.not_false, Bool.true_or, Bool.or_true, if_true, String.ofList_toList,
    Except.bind, bind, pure, Except.pure, Option.map_map, Function.comp_def, Url.reread]

end Settled

/-- Whether no part of an address is too long to be read again. -/
structure PartsFit (u : Url) : Prop where
  scheme : u.scheme.length ≤ maxLength
  authority : u.authority.length ≤ maxLength
  path : u.path.length ≤ maxLength
  fragment : ∀ f ∈ u.fragment, f.length ≤ maxLength

/-- A settled address takes any query that is fit for one, and changes no more than reading its parts again does. -/
theorem Settled.withQuery {u : Url} (h : Settled u) (hfit : PartsFit u) {query : Option String}
    (hquery : ∀ q ∈ query, checkPart .query q.toList = .ok ()) :
    u.withQuery query = .ok (u.reread query) := by
  have hscheme := checkPart_of_plain .scheme (String.length_toList ▸ hfit.scheme) fun c hc =>
    (plain_of_isSchemeChar (h.scheme c hc).1).1.1
  have hauthority := checkPart_of_plain .authority (String.length_toList ▸ hfit.authority) fun c hc =>
    (h.plain_authority c hc).1
  have hpath := checkPart_of_plain .path (String.length_toList ▸ hfit.path) fun c hc =>
    (plain_of_keptInPath (h.path c hc)).1
  have hquery' : ((query.map (·.toList)).map (checkPart .query)).getD (.ok ()) = .ok () := by
    cases query with
    | none => rfl
    | some q => exact hquery q rfl
  have hfragment : ((u.fragment.map (·.toList)).map (checkPart .fragment)).getD (.ok ()) = .ok () := by
    cases hf : u.fragment with
    | none => rfl
    | some f =>
      exact checkPart_of_plain .fragment (String.length_toList ▸ hfit.fragment f hf) fun c hc =>
        ((Bool.and_eq_true _ _).mp (h.fragment f hf c hc)).1
  rw [← h.ofParts]
  simp only [Url.withQuery, hscheme, hauthority, hpath, hquery', hfragment]
  rfl

theorem cutScheme_cases (cs : List Char) :
    cutScheme cs = ([], cs) ∨
      ∃ scheme rest, cutScheme cs = (scheme, rest) ∧ cs = scheme ++ ':' :: rest ∧
        ∀ c ∈ scheme, isSchemeChar c = true := by
  have hsplit := List.takeWhile_append_dropWhile (p := isSchemeChar) (l := cs)
  have hdrop : cs.drop (cs.takeWhile isSchemeChar).length = cs.dropWhile isSchemeChar := by
    have hleft : (cs.takeWhile isSchemeChar ++ cs.dropWhile isSchemeChar).drop (cs.takeWhile isSchemeChar).length =
        cs.dropWhile isSchemeChar := List.drop_left' rfl
    rwa [hsplit] at hleft
  unfold cutScheme
  simp only [hdrop]
  split
  · next rest hrest =>
    split
    · refine .inr ⟨_, _, rfl, ?_, fun c => List.mem_takeWhile_imp⟩
      rw [← hrest, hsplit]
    · exact .inl rfl
  · exact .inl rfl

theorem cutAuthority_cases (cs : List Char) :
    cutAuthority cs = ([], cs) ∨
      ∃ authority rest, cutAuthority cs = (authority, rest) ∧ cs = '/' :: '/' :: (authority ++ rest) ∧
        ∀ c ∈ authority, c ∉ ['/', '?', '#'] := by
  unfold cutAuthority
  split
  · next rest =>
    rw [List.span_eq_takeWhile_dropWhile]
    refine .inr ⟨_, _, rfl, by rw [List.takeWhile_append_dropWhile], fun c hc => ?_⟩
    have hstop := List.mem_takeWhile_imp hc
    simp_all
  · exact .inl rfl

section

variable {cs : List Char} {c : Char}

theorem isSchemeChar_of_mem_ofText (h : c ∈ (Parts.ofText cs).scheme) : isSchemeChar c = true := by
  have hcut : c ∈ (cutScheme cs).1 := h
  rcases cutScheme_cases cs with hnone | ⟨scheme, rest, heq, -, hchars⟩
  · rw [hnone] at hcut
    cases hcut
  · rw [heq] at hcut
    exact hchars c hcut

theorem of_mem_authority_ofText (h : c ∈ (Parts.ofText cs).authority) : c ∈ cs ∧ c ∉ ['/', '?', '#'] := by
  have hcut : c ∈ (cutAuthority (cutScheme cs).2).1 := h
  have hrest : ∀ x ∈ (cutScheme cs).2, x ∈ cs := by
    intro x hx
    rcases cutScheme_cases cs with hnone | ⟨scheme, rest, heq, htext, -⟩
    · rwa [hnone] at hx
    · rw [heq] at hx
      rw [htext]
      exact List.mem_append_right _ (List.mem_cons_of_mem _ hx)
  rcases cutAuthority_cases (cutScheme cs).2 with hnone | ⟨authority, rest, heq, htext, hchars⟩
  · rw [hnone] at hcut
    cases hcut
  · rw [heq] at hcut
    refine ⟨hrest c ?_, hchars c hcut⟩
    rw [htext]
    exact List.mem_cons_of_mem _ (List.mem_cons_of_mem _ (List.mem_append_left _ hcut))

/-- A text without a question mark in front of its fragment has no query. -/
theorem query_ofText (h : '?' ∉ cs.takeWhile (· != '#')) : (Parts.ofText cs).query = none := by
  have happend : ∀ lead rest : List Char, '#' ∉ lead → '?' ∉ (lead ++ rest).takeWhile (· != '#') →
      '?' ∉ rest.takeWhile (· != '#') := by
    intro lead rest hlead hno hm
    have hpos : ∀ c ∈ lead, (c != '#') = true := fun c hc => bne_iff_ne.2 fun he => hlead (he ▸ hc)
    rw [List.takeWhile_append_of_pos hpos] at hno
    exact hno (List.mem_append_right _ hm)
  have hscheme : '?' ∉ (cutScheme cs).2.takeWhile (· != '#') := by
    rcases cutScheme_cases cs with hnone | ⟨scheme, rest, heq, htext, hchars⟩
    · rwa [hnone]
    · rw [heq]
      rw [htext, List.append_cons] at h
      refine happend _ _ (fun hm => ?_) h
      rcases List.mem_append.1 hm with hm | hm
      · exact absurd (hchars _ hm) (by decide)
      · exact absurd hm (by decide)
  have hauthority : '?' ∉ (cutAuthority (cutScheme cs).2).2.takeWhile (· != '#') := by
    rcases cutAuthority_cases (cutScheme cs).2 with hnone | ⟨authority, rest, heq, htext, hchars⟩
    · rwa [hnone]
    · rw [heq]
      rw [htext] at hscheme
      refine happend ('/' :: '/' :: authority) rest (fun hm => ?_) hscheme
      have hin : '#' ∈ authority := by simpa using hm
      exact hchars _ hin (by decide)
  have hmark : ∀ rest, (cutAuthority (cutScheme cs).2).2.dropWhile (fun c => c != '?' && c != '#') ≠ '?' :: rest := by
    intro rest hdrop
    rw [← List.takeWhile_append_dropWhile (p := fun c => c != '?' && c != '#') (l := (cutAuthority (cutScheme cs).2).2),
      hdrop] at hauthority
    refine happend _ _ (fun hm => ?_) hauthority (by simp)
    exact absurd (List.mem_takeWhile_imp hm) (by decide)
  -- `hmark` rules out the case of a query
  unfold Parts.ofText
  simp only [List.span_eq_takeWhile_dropWhile]

theorem of_mem_host {authority userinfo host port : List Char}
    (h : cutAuthorityParts authority = (userinfo, host, port)) (hc : c ∈ host) : c ∈ authority ∧ c ≠ '@' := by
  have hbehind : ∀ x ∈ (authority.reverse.takeWhile (· != '@')).reverse, x ∈ authority ∧ x ≠ '@' := by
    intro x hx
    rw [List.mem_reverse] at hx
    have hat := List.mem_takeWhile_imp hx
    exact ⟨List.mem_reverse.1 (List.takeWhile_subset _ hx), by simpa using hat⟩
  unfold cutAuthorityParts at h
  simp only at h
  generalize (authority.reverse.takeWhile (· != '@')).reverse = behind at h hbehind
  refine hbehind c ?_
  have hhost : host = if behind.head? = some '[' ∧ (!(behind.reverse.dropWhile (· != ']')).reverse.isEmpty) = true then
      (behind.reverse.dropWhile (· != ']')).reverse else behind.takeWhile fun c => c != ':' && c != '@' := by
    split at h
    · exact (Prod.mk.inj (Prod.mk.inj h).2).1.symm
    · exact (Prod.mk.inj (Prod.mk.inj h).2).1.symm
  rw [hhost] at hc
  split at hc
  · exact List.mem_reverse.1 ((List.dropWhile_sublist _).subset (List.mem_reverse.1 hc))
  · exact List.takeWhile_subset _ hc

end

/-- Where the parts of an address that has been read come from. -/
structure ComesOf (u : Url) (parts : Parts) (userinfo host port : List Char) : Prop where
  cut : cutAuthorityParts parts.authority = (userinfo, host, port)
  scheme : u.scheme = String.ofList (parts.scheme.map Char.toLower)
  userinfo : u.userinfo = String.ofList (Percent.encodeAround keptInUserinfo userinfo)
  host : readHost host = .ok u.host
  port : readPort parts.scheme port = .ok u.port
  checked : u.host ≠ "" → checkPath (!parts.scheme.isEmpty) true parts.path = .ok ()
  path : u.host ≠ "" → u.path = String.ofList (Percent.encodeAround keptInPath (removeDots parts.path))
  query : u.query = parts.query.map fun q => String.ofList (Percent.encodeAround keptInQuery q)
  fragment : u.fragment = parts.fragment.map fun f => String.ofList (Percent.encodeAround keptInFragment f)

theorem comesOf_of_ofParts {parts : Parts} {u : Url} (h : ofParts parts = .ok u) :
    ∃ userinfo host port, ComesOf u parts userinfo host port := by
  rcases hcut : cutAuthorityParts parts.authority with ⟨userinfo, host, port⟩
  simp only [ofParts, hcut] at h
  cases hname : readHost host with
  | error fault =>
    rw [hname] at h
    cases h
  | ok name =>
    cases hport : readPort parts.scheme port with
    | error fault =>
      rw [hname, hport] at h
      cases h
    | ok n =>
      generalize hauthority :
        (!(Percent.encodeAround keptInUserinfo userinfo).isEmpty || name != "" || n.isSome) = known at h
      have hknown : name ≠ "" → known = true := by
        intro hne
        rw [← hauthority, bne_iff_ne.2 hne, Bool.or_true, Bool.true_or]
      cases hcheck : checkPath (!parts.scheme.isEmpty) known parts.path with
      | error fault =>
        simp only [hname, hport, hauthority, hcheck, bind, Except.bind] at h
        cases h
      | ok _ =>
        simp only [hname, hport, hauthority, hcheck, bind, Except.bind, pure, Except.pure] at h
        obtain rfl := Except.ok.inj h
        refine ⟨userinfo, host, port, hcut, rfl, rfl, hname, hport, fun hne => ?_, fun hne => ?_, rfl, rfl⟩
        · rw [hknown hne] at hcheck
          exact hcheck
        · rw [hknown hne, Bool.or_true, if_pos rfl]

theorem of_read {text : String} {u : Url} (h : read text = .ok u) :
    (∀ c ∈ text.toList, c.toNat < 0x80 → isPlain c = true) ∧
      ∃ userinfo host port, ComesOf u (Parts.ofText text.toList) userinfo host port := by
  unfold read at h
  simp only at h
  split at h
  · cases h
  · split at h
    · cases h
    · next hprintable =>
      refine ⟨fun c hc hascii => ?_, comesOf_of_ofParts h⟩
      rw [unprintable?, Option.map_eq_none_iff, List.find?_eq_none] at hprintable
      simpa [hascii] using hprintable c hc

/-- A query says the same once it has been read. -/
theorem parameters_of_read {text : String} {u : Url} (h : read text = .ok u) :
    u.parameters = Form.decode ((Parts.ofText text.toList).query.getD []) := by
  obtain ⟨-, userinfo, host, port, hcomes⟩ := of_read h
  obtain ⟨hpercent, hdigit⟩ := kept_escapes.2.2.1
  rw [parameters, hcomes.query]
  cases (Parts.ofText text.toList).query with
  | none => rfl
  | some q =>
    rw [Option.map_some, Option.getD_some, String.toList_ofList, Option.getD_some,
      Form.decode_encodeAround hpercent hdigit (by decide)]

theorem rooted_of_checkPath {hasScheme : Bool} {path : List Char} (h : checkPath hasScheme true path = .ok ()) :
    Rooted path := by
  unfold checkPath at h
  rw [if_pos rfl] at h
  split at h
  · next hroot =>
    rw [Bool.or_eq_true, List.isEmpty_iff, beq_iff_eq] at hroot
    exact hroot
  · cases h

theorem natAbs_lt_of_readPort {scheme port : List Char} {n : Int} (h : readPort scheme port = .ok (some n)) :
    n.natAbs < 10 ^ Numeral.maxDigits := by
  unfold readPort at h
  split at h
  · cases h
  · split at h
    · cases h
    · next m hread =>
      have hsome := Except.ok.inj h
      split at hsome
      · cases hsome
      · obtain rfl := Option.some.inj hsome
        exact Numeral.natAbs_lt_of_int? hread

/-- An absolute address that has been read is settled, if its host is ASCII. -/
theorem settled_of_read {text : String} {u : Url} (h : read text = .ok u) (habsolute : u.isAbsolute = true)
    (hascii : ∀ c ∈ u.host.toList, c.toNat < 0x80) : Settled u := by
  simp only [isAbsolute, Bool.and_eq_true, bne_iff_ne] at habsolute
  obtain ⟨habsolute, hhost⟩ := habsolute
  obtain ⟨hprintable, userinfo, host, port, hcomes⟩ := of_read h
  obtain ⟨huser, hpath, -, hfragment⟩ := kept_escapes
  refine {
    absolute := habsolute
    scheme := fun c hc => ?_
    userinfo := fun c hc => ?_
    host := ?_
    port := fun n hn => natAbs_lt_of_readPort (hcomes.port.trans (congrArg _ hn))
    path := fun c hc => ?_
    dotless := ?_
    rooted := ?_
    fragment := fun f hf c hc => ?_ }
  · rw [hcomes.scheme, String.toList_ofList] at hc
    obtain ⟨x, hx, rfl⟩ := List.mem_map.1 hc
    exact (plain_of_isSchemeChar (isSchemeChar_of_mem_ofText hx)).2
  · rw [hcomes.userinfo, String.toList_ofList] at hc
    exact Percent.kept_of_mem_encodeAround huser.1 huser.2 hc
  · refine hostForm_of_readHost hcomes.host hhost fun c hc hname => ?_
    obtain ⟨hin, hat⟩ := of_mem_host hcomes.cut hc
    obtain ⟨htext, hstops⟩ := of_mem_authority_ofText hin
    refine ⟨hprintable c htext (hascii c hname), ?_⟩
    simp_all
  · rw [hcomes.path hhost, String.toList_ofList] at hc
    exact Percent.kept_of_mem_encodeAround hpath.1 hpath.2 hc
  · rw [hcomes.path hhost, String.toList_ofList, Percent.encodeAround_eq_encode hpath.1 hpath.2]
    exact dotless_encode (by decide) (dotless_removeDots _)
  · rw [hcomes.path hhost, String.toList_ofList, Percent.encodeAround_eq_encode hpath.1 hpath.2]
    exact rooted_encode (by decide) (rooted_removeDots (rooted_of_checkPath (hcomes.checked hhost)))
  · rw [hcomes.fragment] at hf
    obtain ⟨raw, -, rfl⟩ := Option.map_eq_some_iff.1 hf
    rw [String.toList_ofList] at hc
    exact Percent.kept_of_mem_encodeAround hfragment.1 hfragment.2 hc

theorem Settled.authority_ne {u : Url} (h : Settled u) : u.authority ≠ "" := by
  intro he
  have hempty := congrArg String.toList he
  rw [toList_authority] at hempty
  simp [h.host.isHostText.nonempty] at hempty

theorem Settled.length_text {u : Url} (h : Settled u) :
    u.text.length = u.scheme.length + 1 + (2 + u.authority.length) + u.path.length +
      (u.query.elim 0 (1 + ·.length)) + u.fragment.elim 0 (1 + ·.length) := by
  have hmarks : ":".length = 1 ∧ "//".length = 2 ∧ "?".length = 1 ∧ "#".length = 1 ∧ "".length = 0 := by decide
  rw [text, if_neg h.absolute, if_neg h.authority_ne]
  cases u.query <;> cases u.fragment <;> simp [String.length_append, hmarks]

theorem length_ofInt_of_defaultPort {scheme : List Char} {n : Int} (h : defaultPort? scheme = some n) :
    (Digits.ofInt n).length ≤ 3 := by
  have hin := Table.mem_of_get? h
  simp only [List.mem_cons, List.not_mem_nil, or_false, Prod.mk.injEq] at hin
  rcases hin with ⟨-, rfl⟩ | ⟨-, rfl⟩ | ⟨-, rfl⟩ | ⟨-, rfl⟩ | ⟨-, rfl⟩
  all_goals decide

/-- Reading an authority again takes nothing off it but the port of its scheme. -/
theorem length_authority_le (u : Url) (query : Option String) :
    u.authority.length ≤ (u.reread query).authority.length + 4 := by
  have hhost : (hostText u.host.toList).length ≤ (hostText (rereadHost u.host.toList)).length := by
    by_cases hcolon : ':' ∈ u.host.toList
    · rw [rereadHost_of_colon hcolon]
    · rw [hostText_of_not_colon hcolon, rereadHost_of_not_colon hcolon, hostText]
      split
      · simp
        omega
      · simp
  have hport : (portText u.port).length ≤
      (portText (u.port.filter fun n => defaultPort? u.scheme.toList != some n)).length + 4 := by
    cases hp : u.port with
    | none => simp [portText]
    | some n =>
      by_cases hdefault : defaultPort? u.scheme.toList = some n
      · have hlength := length_ofInt_of_defaultPort hdefault
        simp [portText, Option.filter, hdefault]
        omega
      · simp [portText, Option.filter, hdefault]
  have huser : (if (u.reread query).userinfo = "" then [] else (u.reread query).userinfo.toList ++ ['@']) =
      if u.userinfo = "" then [] else u.userinfo.toList ++ ['@'] := rfl
  rw [← String.length_toList, ← String.length_toList, toList_authority, toList_authority, huser]
  simp only [reread, String.toList_ofList, List.length_append]
  omega

/-- An address that is short enough has no part that is too long. -/
theorem Settled.partsFit {u : Url} (h : Settled u) (hfit : u.text.length ≤ maxLength) : PartsFit u := by
  rw [h.length_text] at hfit
  refine ⟨by omega, by omega, by omega, fun f hf => ?_⟩
  rw [Option.mem_def.1 hf, Option.elim_some] at hfit
  omega

/-- Nor has one that is short enough with its new query. -/
theorem Settled.partsFit_of_reread {u : Url} (h : Settled u) {query : String}
    (hfit : (u.reread (some query)).text.length ≤ maxLength) : PartsFit u := by
  have hauthority := u.length_authority_le (some query)
  rw [(h.reread (some query)).length_text] at hfit
  have hquery : (u.reread (some query)).query =
      some (String.ofList (Percent.encodeAround keptInQuery query.toList)) := rfl
  rw [hquery, Option.elim_some] at hfit
  simp only [Url.reread] at hfit hauthority
  refine ⟨by omega, by omega, by omega, fun f hf => ?_⟩
  rw [Option.mem_def.1 hf, Option.elim_some] at hfit
  omega

/-- What stands in front of the query of an address. -/
def stem (u : Url) : List Char :=
  u.scheme.toList ++ ':' :: '/' :: '/' :: (u.authority.toList ++ u.path.toList)

theorem Settled.toList_text {u : Url} (h : Settled u) :
    u.text.toList = u.stem ++ ((u.query.elim "" ("?" ++ ·)).toList ++ (u.fragment.elim "" ("#" ++ ·)).toList) := by
  rw [text, if_neg h.absolute, if_neg h.authority_ne]
  simp [stem]

theorem Settled.plain_stem {u : Url} (h : Settled u) : ∀ c ∈ u.stem, c ∉ ['?', '#'] := by
  intro c hc
  rw [stem, List.mem_append, List.mem_cons, List.mem_cons, List.mem_cons, List.mem_append] at hc
  rcases hc with hc | rfl | rfl | rfl | hc | hc
  · have hscheme := (plain_of_isSchemeChar (h.scheme c hc).1).1
    simp_all
  · decide
  · decide
  · decide
  · have hauthority := h.plain_authority c hc
    simp_all
  · exact (plain_of_keptInPath (h.path c hc)).2

/-- The text of a settled address without a query has none. -/
theorem Settled.query_text {u : Url} (h : Settled u) (hquery : u.query = none) :
    (Parts.ofText u.text.toList).query = none := by
  have hstop : ∀ c, (u.fragment.elim "" ("#" ++ ·)).toList.head? = some c → (c != '#') = false := by
    intro c hc
    cases hf : u.fragment with
    | none => simp [hf] at hc
    | some f =>
      obtain rfl : '#' = c := by simpa [hf] using hc
      rfl
  have hstem : ∀ c ∈ u.stem, (c != '#') = true := by
    intro c hc
    have hmark := h.plain_stem c hc
    simp_all
  apply query_ofText
  rw [h.toList_text, hquery, Option.elim_none, String.toList_empty, List.nil_append, Text.takeWhile_of_stop hstem hstop]
  exact fun hm => h.plain_stem _ hm (by decide)

end Url

end SignOn
