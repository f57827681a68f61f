import SignOn.Proofs.Segments
import SignOn.Proofs.Membership
import SignOn.Provider.Setup

/-!
Where the lookups of a group check go. The key of a user is escaped, put behind the address of the directory, and read
again as an address, which takes dot segments away.
-/

namespace SignOn

namespace Url

/-- Whether some characters are a host that can be read, without anything around it. -/
structure IsHost (host : List Char) : Prop where
  nonempty : host ≠ []
  plain : ∀ c ∈ host, isPlain c = true ∧ c ∉ ['/', '?', '#', '@']
  bracketed : host.head? = some '[' ∧ host.getLast? = some ']' ∨ host.head? ≠ some '[' ∧ ':' ∉ host
  reads : ∃ name, readHost host = .ok name

/-- Whether some characters are cut out of an authority as its host. -/
structure IsHostText (host : List Char) : Prop where
  nonempty : host ≠ []
  plain : ∀ c ∈ host, isPlain c = true ∧ c ∉ ['/', '?', '#', '@']
  bracketed : host.head? = some '[' ∧ host.getLast? = some ']' ∨ host.head? ≠ some '[' ∧ ':' ∉ host

theorem IsHost.isHostText {host : List Char} (h : IsHost host) : IsHostText host :=
  ⟨h.nonempty, h.plain, h.bracketed⟩

/-- Whether some characters are nothing, or a colon and a port that can be read. -/
structure IsPort (port : List Char) : Prop where
  plain : ∀ c ∈ port, isPlain c = true ∧ c ∉ ['/', '?', '#', '@', ']']
  colon : port = [] ∨ ∃ digits, port = ':' :: digits
  reads : ∃ n, readPort "http".toList (port.drop 1) = .ok n

/-- Whether a text is a host, perhaps with a port, and nothing else. -/
def PlainHost (text : String) : Prop :=
  ∃ host port, text.toList = host ++ port ∧ IsHost host ∧ IsPort port

theorem plain_of_all {cs stops : List Char} (h : cs.all (fun c => isPlain c && !stops.contains c) = true) :
    ∀ c ∈ cs, isPlain c = true ∧ c ∉ stops := by
  intro c hc
  have hc' := List.all_eq_true.1 h c hc
  simpa using hc'

theorem hostPart_of_isHostText {host port : List Char} (hh : IsHostText host) (hp : IsPort port) :
    (if (host ++ port).head? = some '[' ∧ !((host ++ port).reverse.dropWhile (· != ']')).reverse.isEmpty then
        ((host ++ port).reverse.dropWhile (· != ']')).reverse
      else (host ++ port).takeWhile fun c => c != ':' && c != '@') = host := by
  have hhead : (host ++ port).head? = host.head? := by
    cases host with
    | nil => exact absurd rfl hh.nonempty
    | cons c cs => rfl
  rcases hh.bracketed with ⟨hopen, hclose⟩ | ⟨hname, hcolon⟩
  · -- a host in brackets may hold colons, and ends with the last bracket
    have hbracket : ((host ++ port).reverse.dropWhile (· != ']')).reverse = host := by
      have hport : ∀ c ∈ port.reverse, (c != ']') = true := by
        intro c hc
        have := (hp.plain c (List.mem_reverse.1 hc)).2
        simp_all
      have hstop : ∀ c, host.reverse.head? = some c → (c != ']') = false := by
        intro c hc
        rw [List.head?_reverse, hclose] at hc
        obtain rfl := Option.some.inj hc
        rfl
      rw [List.reverse_append, Text.dropWhile_of_stop hport hstop, List.reverse_reverse]
    have hsome : (!host.isEmpty) = true := by simpa using hh.nonempty
    rw [hbracket, if_pos ⟨by rw [hhead, hopen], hsome⟩]
  · have hname' : ∀ c ∈ host, (c != ':' && c != '@') = true := by
      intro c hc
      have hat := (hh.plain c hc).2
      have hne : c ≠ ':' := fun he => hcolon (he ▸ hc)
      simp_all
    have hstop : ∀ c, port.head? = some c → (c != ':' && c != '@') = false := by
      intro c hc
      rcases hp.colon with rfl | ⟨digits, rfl⟩
      · cases hc
      · obtain rfl := Option.some.inj hc
        rfl
    rw [if_neg (fun h => hname (hhead ▸ h.1)), Text.takeWhile_of_stop hname' hstop]

theorem cutAuthorityParts_of_isHostText {host port : List Char} (hh : IsHostText host) (hp : IsPort port) :
    cutAuthorityParts (host ++ port) = ([], host, port.drop 1) := by
  have hat : ∀ c ∈ (host ++ port).reverse, (c != '@') = true := by
    intro c hc
    rw [List.mem_reverse, List.mem_append] at hc
    rcases hc with hc | hc
    · have := (hh.plain c hc).2
      simp_all
    · have := (hp.plain c hc).2
      simp_all
  have hbehind : ((host ++ port).reverse.takeWhile (· != '@')).reverse = host ++ port := by
    have hall : ((host ++ port).reverse ++ []).takeWhile (· != '@') = (host ++ port).reverse :=
      Text.takeWhile_of_stop hat (by simp)
    rw [List.append_nil] at hall
    rw [hall, List.reverse_reverse]
  have hport : (host ++ port).drop host.length = port := by simp
  simp only [cutAuthorityParts, hbehind, hostPart_of_isHostText hh hp, hport]
  rcases hp.colon with rfl | ⟨digits, rfl⟩
  · simp
  · simp

theorem PlainHost.plain {text : String} (h : PlainHost text) :
    ∀ c ∈ text.toList, isPlain c = true ∧ c ∉ ['/', '?', '#', '@'] := by
  obtain ⟨host, port, htext, hh, hp⟩ := h
  intro c hc
  rw [htext, List.mem_append] at hc
  rcases hc with hc | hc
  · exact hh.plain c hc
  · have := hp.plain c hc
    simp_all

/-- The scheme of an address here. -/
def IsWeb (scheme : List Char) : Prop :=
  scheme = "http".toList ∨ scheme = "https".toList

theorem IsWeb.plain {scheme : List Char} (h : IsWeb scheme) : ∀ c ∈ scheme, isPlain c = true := by
  rcases h with rfl | rfl
  · exact List.all_eq_true.1 (by decide)
  · exact List.all_eq_true.1 (by decide)

theorem IsWeb.length_le {scheme : List Char} (h : IsWeb scheme) : scheme.length ≤ maxLength := by
  rcases h with rfl | rfl
  · decide
  · decide

/-- The text of an address with nothing but an authority, a path and perhaps a query. -/
def addressText (scheme authority path : List Char) (query : Option (List Char)) : List Char :=
  scheme ++ "://".toList ++ (authority ++ '/' :: (path ++ query.elim [] ('?' :: ·)))

/-- A port is read behind every scheme if it is behind one. -/
theorem exists_readPort {port : List Char} (h : IsPort port) (scheme : List Char) :
    ∃ n, readPort scheme (port.drop 1) = .ok n := by
  obtain ⟨n, hn⟩ := h.reads
  unfold readPort at hn ⊢
  split at hn
  · next hnone => exact ⟨none, if_pos hnone⟩
  · next hsome =>
    rw [if_neg hsome]
    cases hint : Numeral.int? (port.drop 1) with
    | none =>
      rw [hint] at hn
      cases hn
    | some m => exact ⟨_, rfl⟩

theorem ofText_of_authority {scheme authority path : List Char} {query : Option (List Char)} (hweb : IsWeb scheme)
    (ha : ∀ c ∈ authority, c ∉ ['/', '?', '#']) (hp : ∀ c ∈ path, c ∉ ['?', '#']) (hq : ∀ q ∈ query, '#' ∉ q) :
    Parts.ofText (addressText scheme authority path query) = ⟨scheme, authority, '/' :: path, query, none⟩ := by
  have hscheme : ∀ rest, cutScheme (scheme ++ "://".toList ++ rest) = (scheme, '/' :: '/' :: rest) := by
    intro rest
    rcases hweb with rfl | rfl
    · rfl
    · rfl
  have hauthority : ∀ rest, cutAuthority ('/' :: '/' :: (authority ++ '/' :: rest)) = (authority, '/' :: rest) := by
    refine fun rest => Text.span_of_stop (fun c hc => ?_) fun c hc => ?_
    · have := ha c hc
      simp_all
    · obtain rfl := Option.some.inj hc
      rfl
  have hpath : ('/' :: (path ++ query.elim [] ('?' :: ·))).span (fun c => c != '?' && c != '#') =
      ('/' :: path, query.elim [] ('?' :: ·)) := by
    rw [← List.cons_append]
    refine Text.span_of_stop (fun c hc => ?_) fun c hc => ?_
    · rcases List.mem_cons.1 hc with rfl | hc
      · rfl
      · have := hp c hc
        simp_all
    · cases query with
      | none => cases hc
      | some q =>
        obtain rfl := Option.some.inj hc
        rfl
  cases query with
  | none =>
    rw [Option.elim_none] at hpath
    simp only [Parts.ofText, addressText, hscheme, hauthority, Option.elim_none, hpath]
  | some q =>
    have hquery : q.span (· != '#') = (q, []) := by
      have hall : (q ++ []).span (· != '#') = (q, []) := by
        refine Text.span_of_stop (fun c hc => ?_) (by simp)
        have hne : c ≠ '#' := fun he => hq q rfl (he ▸ hc)
        simpa using hne
      rwa [List.append_nil] at hall
    rw [Option.elim_some] at hpath
    simp only [Parts.ofText, addressText, hscheme, hauthority, Option.elim_some, hpath, hquery]

/-- What is made of the parts of an address with nothing but a host, a port, a path and perhaps a query. -/
theorem ofParts_of_isHost {scheme host port : List Char} (hweb : IsWeb scheme) (hh : IsHost host) (hp : IsPort port)
    {name : String} {n : Option Int} (hname : readHost host = .ok name) (hn : readPort scheme (port.drop 1) = .ok n)
    (path : List Char) (query : Option (List Char)) :
    ofParts ⟨scheme, host ++ port, '/' :: path, query, none⟩ =
      .ok ⟨String.ofList scheme, "", name, n, String.ofList (Percent.encodeAround keptInPath (removeDots ('/' :: path))),
        query.map fun q => String.ofList (Percent.encodeAround keptInQuery q), none⟩ := by
  have huser : Percent.encodeAround keptInUserinfo [] = [] := rfl
  have hscheme : (!scheme.isEmpty) = true ∧ scheme.map Char.toLower = scheme := by
    rcases hweb with rfl | rfl
    · decide
    · decide
  have hcheck : ∀ hasAuthority, checkPath true hasAuthority ('/' :: path) = .ok () := by
    intro hasAuthority
    cases hasAuthority with
    | true => rfl
    | false => rfl
  simp only [ofParts, cutAuthorityParts_of_isHostText hh.isHostText hp, huser, hname, hn, hscheme, hcheck, Bool.true_or, if_true]
  rfl

/-- A text without anything unprintable is refused for its length alone before it is taken apart. -/
theorem read_of_isPlain {cs : List Char} (h : ∀ c ∈ cs, isPlain c = true) :
    read (String.ofList cs) = if maxLength < cs.length then .error .tooLong else ofParts (Parts.ofText cs) := by
  simp only [read, String.toList_ofList, unprintable?_of_isPlain h]

theorem plain_of_mem_addressText {scheme : List Char} (hweb : IsWeb scheme) {text : String} (h : PlainHost text)
    {path : List Char} {query : Option (List Char)} (hpath : ∀ c ∈ path, isPlain c = true)
    (hquery : ∀ q ∈ query, ∀ c ∈ q, isPlain c = true) :
    ∀ c ∈ addressText scheme text.toList path query, isPlain c = true := by
  intro c hc
  rw [addressText, List.mem_append, List.mem_append] at hc
  rcases hc with (hc | hc) | hc
  · exact hweb.plain c hc
  · exact List.all_eq_true.1 (by decide : "://".toList.all isPlain = true) c hc
  · rw [List.mem_append, List.mem_cons, List.mem_append] at hc
    rcases hc with hc | rfl | hc | hc
    · exact (h.plain c hc).1
    · rfl
    · exact hpath c hc
    · cases query with
      | none => cases hc
      | some q =>
        rcases List.mem_cons.1 hc with rfl | hc
        · rfl
        · exact hquery q rfl c hc

/-- An address of a host, a port, a path and perhaps a query is put into normal form, whatever path and query are. -/
theorem ofParts_of_plainHost {scheme : List Char} (hweb : IsWeb scheme) {text : String} (h : PlainHost text) :
    ∃ host port, ∀ (path : List Char) (query : Option (List Char)), (∀ c ∈ path, c ∉ ['?', '#']) →
      (∀ q ∈ query, '#' ∉ q) →
        ofParts (Parts.ofText (addressText scheme text.toList path query)) =
          .ok ⟨String.ofList scheme, "", host, port,
            String.ofList (Percent.encodeAround keptInPath (removeDots ('/' :: path))),
            query.map fun q => String.ofList (Percent.encodeAround keptInQuery q), none⟩ := by
  have hauthority : ∀ c ∈ text.toList, c ∉ ['/', '?', '#'] := by
    intro c hc
    have := (h.plain c hc).2
    simp_all
  obtain ⟨host, port, htext, hh, hp⟩ := h
  obtain ⟨name, hname⟩ := hh.reads
  obtain ⟨n, hn⟩ := exists_readPort hp scheme
  refine ⟨name, n, fun path query hpath hquery => ?_⟩
  rw [ofText_of_authority hweb hauthority hpath hquery, htext]
  exact ofParts_of_isHost hweb hh hp hname hn path query

/-- An address of a host, a port, a path and perhaps a query is read, whatever path and query are. -/
theorem read_of_plainHost {scheme : List Char} (hweb : IsWeb scheme) {text : String} (h : PlainHost text) :
    ∃ host port, ∀ (path : List Char) (query : Option (List Char)), (∀ c ∈ path, isPlain c = true ∧ c ∉ ['?', '#']) →
      (∀ q ∈ query, ∀ c ∈ q, isPlain c = true ∧ c ≠ '#') →
        (addressText scheme text.toList path query).length ≤ maxLength →
          read (String.ofList (addressText scheme text.toList path query)) =
            .ok ⟨String.ofList scheme, "", host, port,
              String.ofList (Percent.encodeAround keptInPath (removeDots ('/' :: path))),
              query.map fun q => String.ofList (Percent.encodeAround keptInQuery q), none⟩ := by
  obtain ⟨host, port, hparts⟩ := ofParts_of_plainHost hweb h
  refine ⟨host, port, fun path query hpath hquery hfit => ?_⟩
  have hplain := plain_of_mem_addressText hweb h (fun c hc => (hpath c hc).1) fun q hq c hc => (hquery q hq c hc).1
  rw [read_of_isPlain hplain, if_neg (Nat.not_lt.2 hfit)]
  exact hparts path query (fun c hc => (hpath c hc).2) fun q hq hc => (hquery q hq '#' hc).2 rfl

end Url

namespace Directory

theorem keptInKey_percent : keptInKey '%' = false := by decide

theorem toNat_lt_of_keptInKey {c : Char} (h : keptInKey c = true) : c.toNat < 128 := by
  rw [keptInKey, Bool.or_eq_true] at h
  rcases h with h | h
  · exact Percent.toNat_lt_of_unreserved h
  · have hlist : "/=,:@;+&$".toList.all (·.toNat < 128) = true := by decide
    exact of_decide_eq_true (List.all_eq_true.1 hlist c (List.contains_iff_mem.1 h))

theorem keptInPath_of_keptInKey {c : Char} (h : keptInKey c = true) : Url.keptInPath c = true := by
  have hascii : ∀ n < 128, keptInKey (Char.ofNat n) = true → Url.keptInPath (Char.ofNat n) = true := by decide
  exact Ascii.forall_of_codes (p := fun c => keptInKey c = true → Url.keptInPath c = true) hascii
    (toNat_lt_of_keptInKey h) h

/-- An escaped key has nothing in it that ends a path. -/
theorem plain_of_mem_encode {cs : List Char} {c : Char} (h : c ∈ Percent.encode keptInKey cs) :
    Url.isPlain c = true ∧ c ∉ ['?', '#'] := by
  rcases Percent.of_mem_encode h with ⟨hc, -⟩ | rfl | ⟨n, hn, rfl⟩
  · have hascii : ∀ n < 128, keptInKey (Char.ofNat n) = true →
        Url.isPlain (Char.ofNat n) = true ∧ Char.ofNat n ∉ ['?', '#'] := by decide
    exact Ascii.forall_of_codes (p := fun c => keptInKey c = true → Url.isPlain c = true ∧ c ∉ ['?', '#']) hascii
      (toNat_lt_of_keptInKey hc) hc
  · decide
  · have hdigits : ∀ n < 16, Url.isPlain (Hex.upper n) = true ∧ Hex.upper n ∉ ['?', '#'] := by decide
    exact hdigits n hn

/-- The path of a text under a directory, as it is sent: escaped, and without dot segments. -/
def sentPath (cs : List Char) : String :=
  String.ofList (Percent.encode keptInKey (Url.removeDots ("/user/".toList ++ cs)))

/-- A sent path tells the text back, save for dot segments. -/
theorem decode_sentPath (cs : List Char) :
    Percent.decode (sentPath cs).toList = Url.removeDots ("/user/".toList ++ cs) := by
  rw [sentPath, String.toList_ofList, Percent.decode_encode keptInKey_percent]

theorem sentPath_inj {a b : List Char} :
    sentPath a = sentPath b ↔ Url.removeDots ("/user/".toList ++ a) = Url.removeDots ("/user/".toList ++ b) := by
  rw [sentPath, sentPath, String.ofList_inj, Percent.encode_inj keptInKey_percent]

/-- The path of a text under a directory is the text exactly if the text has no dot segments. -/
theorem decode_sentPath_eq_iff (cs : List Char) :
    Percent.decode (sentPath cs).toList = "/user/".toList ++ cs ↔ Url.Dotless cs := by
  have hsplit : "/user/".toList ++ cs = "/user".toList ++ '/' :: cs := rfl
  have huser : Url.Dotless "/user".toList := by decide
  rw [decode_sentPath, Url.removeDots_eq_self_iff, hsplit, Url.dotless_append_slash]
  exact ⟨And.right, And.intro huser⟩

/-- Without dot segments, different texts are sent to different paths. -/
theorem sentPath_inj_of_dotless {a b : List Char} (ha : Url.Dotless a) (hb : Url.Dotless b) :
    sentPath a = sentPath b ↔ a = b := by
  refine ⟨fun h => ?_, fun h => h ▸ rfl⟩
  have ha' := (decode_sentPath_eq_iff a).2 ha
  have hb' := (decode_sentPath_eq_iff b).2 hb
  rw [h, hb'] at ha'
  exact (List.append_cancel_left ha').symm

/-- Behind a plain host, every lookup is sent to a path made of its text. -/
theorem request_of_plainHost {identityHost : String} (h : Url.PlainHost identityHost) (timeout : Binary64) :
    ∃ host port, ∀ cs : List Char,
      (Provider.directoryUrl identityHost ++ String.ofList (Percent.encode keptInKey cs)).length ≤ Url.maxLength →
        request ⟨Provider.directoryUrl identityHost, timeout⟩ (String.ofList (Percent.encode keptInKey cs)) [] =
          Request.make "GET" ⟨"http", "", host, port, sentPath cs, none, none⟩ [] := by
  obtain ⟨host, port, hread⟩ := Url.read_of_plainHost (.inl rfl) h
  refine ⟨host, port, fun cs hfit => ?_⟩
  have htext : Provider.directoryUrl identityHost ++ String.ofList (Percent.encode keptInKey cs) = String.ofList
      (Url.addressText "http".toList identityHost.toList ("user/".toList ++ Percent.encode keptInKey cs) none) := by
    rw [← String.toList_inj]
    simp [Provider.directoryUrl, Url.addressText]
  have hplain : ∀ c ∈ "user/".toList ++ Percent.encode keptInKey cs, Url.isPlain c = true ∧ c ∉ ['?', '#'] := by
    intro c hc
    rcases List.mem_append.1 hc with hc | hc
    · have huser : ∀ c ∈ "user/".toList, Url.isPlain c = true ∧ c ∉ ['?', '#'] := Url.plain_of_all (by decide)
      exact huser c hc
    · exact plain_of_mem_encode hc
  have hpath : Percent.encodeAround Url.keptInPath
      (Url.removeDots ('/' :: ("user/".toList ++ Percent.encode keptInKey cs))) =
        Percent.encode keptInKey (Url.removeDots ("/user/".toList ++ cs)) := by
    have huser : Percent.encode keptInKey "/user/".toList = "/user/".toList :=
      Percent.encode_of_safe (List.all_eq_true.1 (by decide))
    have hjoin : '/' :: ("user/".toList ++ Percent.encode keptInKey cs) =
        Percent.encode keptInKey ("/user/".toList ++ cs) := by
      rw [Percent.encode_append, huser]
      rfl
    rw [hjoin, Url.removeDots_encode (by decide) (by decide) keptInKey_percent,
      Percent.encodeAround_encode keptInKey_percent fun c hc => keptInPath_of_keptInKey hc]
  rw [htext, String.length_ofList] at hfit
  have hurl := hread _ none hplain (by simp) hfit
  rw [hpath] at hurl
  simp only [request, htext, hurl]
  rfl

end Directory

namespace Provider

/-- Requests without headers differ only by their addresses. -/
theorem make_get_inj {a b : Url} : Request.make "GET" a [] = Request.make "GET" b [] ↔ a = b := by
  refine ⟨fun h => ?_, fun h => h ▸ rfl⟩
  obtain ⟨request, ha, rfl⟩ := Request.make_get a
  obtain ⟨request', hb, rfl⟩ := Request.make_get b
  rw [ha, hb] at h
  rw [Except.ok.inj h]

/-- Whether the lookups of a user key stay within the length of an address. -/
def KeyFits (identityHost userKey : String) : Prop :=
  (directoryUrl identityHost ++ Directory.groupsPath userKey).length ≤ Url.maxLength

/-- The two requests of a group check behind a plain host. -/
theorem requests_of_plainHost (signOnHost : String) {identityHost : String} (groups : List Text) (options : Options)
    (hhost : Url.PlainHost identityHost) :
    ∃ host port, ∀ userKey, KeyFits identityHost userKey →
      (make signOnHost identityHost groups options).groupCheck.entryRequest userKey =
          Request.make "GET" ⟨"http", "", host, port, Directory.sentPath userKey.toList, none, none⟩ [] ∧
        (make signOnHost identityHost groups options).groupCheck.groupsRequest userKey =
          Request.make "GET"
            ⟨"http", "", host, port, Directory.sentPath (userKey.toList ++ "/groups".toList), none, none⟩ [] := by
  obtain ⟨host, port, hrequest⟩ := Directory.request_of_plainHost hhost options.requestTimeout
  refine ⟨host, port, fun userKey hfit => ?_⟩
  have hgroups : Directory.groupsPath userKey =
      String.ofList (Percent.encode Directory.keptInKey (userKey.toList ++ "/groups".toList)) := by
    have hsafe : Percent.encode Directory.keptInKey "/groups".toList = "/groups".toList :=
      Percent.encode_of_safe (List.all_eq_true.1 (by decide))
    rw [← String.toList_inj, Directory.groupsPath, Directory.entryPath, Percent.encode_append, hsafe]
    simp only [String.toList_append, String.toList_ofList]
  constructor
  · refine hrequest userKey.toList ?_
    rw [KeyFits, Directory.groupsPath, Directory.entryPath, ← String.append_assoc, String.length_append] at hfit
    omega
  · rw [KeyFits, hgroups] at hfit
    have h := hrequest _ hfit
    rw [← hgroups] at h
    exact h

/-- Where the lookups of a group check go. They name exactly the user key as long as none of its segments is a dot or
two; otherwise those segments are taken away, and the lookups are those of any other key that comes to the same path. A
key with halves is not looked up. -/
theorem lookups_name_user_iff (signOnHost : String) {identityHost : String} (groups : List Text) (options : Options)
    (hhost : Url.PlainHost identityHost) {userKey : String} (hk : userKey ≠ "") (hfit : KeyFits identityHost userKey) :
    let c := (make signOnHost identityHost groups options).groupCheck
    ∃ entry listing, c.entryRequest userKey = .ok entry ∧ c.groupsRequest userKey = .ok listing ∧
      (∀ timeout site,
        (c.isAuthorized userKey timeout site).2.sent = site.sent ++ [⟨entry, timeout.getD c.directory.timeout⟩] ∨
          (c.isAuthorized userKey timeout site).2.sent = site.sent ++
            [⟨entry, timeout.getD c.directory.timeout⟩, ⟨listing, timeout.getD c.directory.timeout⟩]) ∧
      (∀ torn : Text, torn.isWhole = false → ∀ timeout site, (c.isAuthorized torn timeout site).2.sent = site.sent) ∧
      (Percent.decode entry.url.path.toList = ("/user/" ++ userKey).toList ↔ Url.Dotless userKey.toList) ∧
      (Percent.decode listing.url.path.toList = ("/user/" ++ userKey ++ "/groups").toList ↔
        Url.Dotless userKey.toList) ∧
      ∀ other, KeyFits identityHost other →
        (c.entryRequest other = c.entryRequest userKey ↔
          Url.removeDots ("/user/" ++ other).toList = Url.removeDots ("/user/" ++ userKey).toList) ∧
        (c.groupsRequest other = c.groupsRequest userKey ↔
          Url.removeDots ("/user/" ++ other ++ "/groups").toList =
            Url.removeDots ("/user/" ++ userKey ++ "/groups").toList) ∧
        (Url.Dotless userKey.toList → Url.Dotless other.toList → other ≠ userKey →
          c.entryRequest other ≠ c.entryRequest userKey ∧ c.groupsRequest other ≠ c.groupsRequest userKey) := by
  intro c
  obtain ⟨host, port, hrequests⟩ := requests_of_plainHost signOnHost groups options hhost
  obtain ⟨hentry, hlisting⟩ := hrequests userKey hfit
  obtain ⟨entry, hmake, hurl⟩ := Request.make_get ⟨"http", "", host, port, Directory.sentPath userKey.toList, none, none⟩
  obtain ⟨listing, hmake', hurl'⟩ :=
    Request.make_get ⟨"http", "", host, port, Directory.sentPath (userKey.toList ++ "/groups".toList), none, none⟩
  have hsent := fun timeout site =>
    c.isAuthorized_sent userKey timeout site (mt Text.whole.inj hk) (hentry.trans hmake) (hlisting.trans hmake')
  have hdotless : ∀ key : String, Url.Dotless (key.toList ++ "/groups".toList) ↔ Url.Dotless key.toList := by
    intro key
    have hgroups : Url.Dotless "groups".toList := by decide
    exact (Url.dotless_append_slash _ _).trans ⟨And.left, fun h => ⟨h, hgroups⟩⟩
  refine ⟨entry, listing, hentry.trans hmake, hlisting.trans hmake', ?_, ?_, ?_, ?_, ?_⟩
  · intro timeout site
    exact (hsent timeout site).imp_right And.right
  · exact fun torn htorn timeout site => c.isAuthorized_sent_of_torn torn timeout site htorn
  · rw [hurl, String.toList_append]
    exact Directory.decode_sentPath_eq_iff userKey.toList
  · rw [hurl', String.toList_append, String.toList_append, List.append_assoc]
    exact (Directory.decode_sentPath_eq_iff _).trans (hdotless userKey)
  · intro other hfit'
    obtain ⟨hentry', hlisting'⟩ := hrequests other hfit'
    have hentries : c.entryRequest other = c.entryRequest userKey ↔
        Directory.sentPath other.toList = Directory.sentPath userKey.toList := by
      rw [hentry, hentry', make_get_inj, Url.mk.injEq]
      simp
    have hlistings : c.groupsRequest other = c.groupsRequest userKey ↔
        Directory.sentPath (other.toList ++ "/groups".toList) =
          Directory.sentPath (userKey.toList ++ "/groups".toList) := by
      rw [hlisting, hlisting', make_get_inj, Url.mk.injEq]
      simp
    refine ⟨?_, ?_, fun hd hd' hne => ⟨fun h => hne ?_, fun h => hne ?_⟩⟩
    · rw [hentries, Directory.sentPath_inj, String.toList_append, String.toList_append]
    · rw [hlistings, Directory.sentPath_inj]
      simp only [String.toList_append, List.append_assoc]
    · have hkeys := (Directory.sentPath_inj_of_dotless hd' hd).1 (hentries.1 h)
      exact String.toList_inj.1 hkeys
    · have hkeys := (Directory.sentPath_inj_of_dotless ((hdotless other).2 hd') ((hdotless userKey).2 hd)).1
        (hlistings.1 h)
      exact String.toList_inj.1 (List.append_cancel_right hkeys)

/-- A key with a slash and a space, behind a host with a port. -/
theorem lookups_name_user_of_slash :
    let c := (make "sso.example" "directory.example:8080" ["eng"] {}).groupCheck
    Url.PlainHost "directory.example:8080" ∧ KeyFits "directory.example:8080" "ou=people/uid=a b" ∧
      ∃ entry listing, c.entryRequest "ou=people/uid=a b" = .ok entry ∧
        c.groupsRequest "ou=people/uid=a b" = .ok listing ∧
        Percent.decode entry.url.path.toList = "/user/ou=people/uid=a b".toList ∧
        Percent.decode listing.url.path.toList = "/user/ou=people/uid=a b/groups".toList := by
  intro c
  have hhost : Url.PlainHost "directory.example:8080" := by
    refine ⟨"directory.example".toList, ":8080".toList, by decide, ?_, ?_⟩
    · exact ⟨by decide, Url.plain_of_all (by decide), .inr (by decide), "directory.example", by decide +kernel⟩
    · exact ⟨Url.plain_of_all (by decide), .inr ⟨"8080".toList, by decide⟩, some 8080, by decide +kernel⟩
  have hfit : KeyFits "directory.example:8080" "ou=people/uid=a b" := by
    rw [KeyFits]
    decide +kernel
  obtain ⟨entry, listing, hentry, hlisting, -, -, hpath, hpath', -⟩ :=
    lookups_name_user_iff "sso.example" ["eng"] {} hhost (by decide) hfit
  exact ⟨hhost, hfit, entry, listing, hentry, hlisting, hpath.2 (by decide), hpath'.2 (by decide)⟩

/-- Dot segments in a key make its lookups those of another user, or take them out of the directory. -/
theorem lookups_of_dots :
    let c := (make "sso.example" "directory.example" ["eng"] {}).groupCheck
    c.entryRequest "x/../uid=j.doe" = c.entryRequest "uid=j.doe" ∧
      c.groupsRequest "x/../uid=j.doe" = c.groupsRequest "uid=j.doe" ∧
      (c.entryRequest "../admin").map (·.url.path) = .ok "/admin" := by
  intro c
  exact ⟨by decide +kernel, by decide +kernel, by decide +kernel⟩

end Provider

end SignOn
