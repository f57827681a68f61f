import SignOn.Proofs.NormalForm

/-!
Paths made of user keys. Escaping a key loses nothing: a path spells one key, and undoing its escapes gives that key back.
Behind a plain host such a path is in normal form already, so that reading the address escapes nothing a second time.
-/

namespace SignOn

/-- The digits that escapes are written in. -/
def Hex.IsUpper (c : Char) : Prop :=
  c.isDigit = true ∨ 'A' ≤ c ∧ c ≤ 'F'

instance (c : Char) : Decidable (Hex.IsUpper c) :=
  inferInstanceAs (Decidable (c.isDigit = true ∨ 'A' ≤ c ∧ c ≤ 'F'))

theorem Hex.isUpper_upper : ∀ n < 16, IsUpper (upper n) := by decide

namespace Percent

/-- Texts of kept characters and escapes in capital digits. -/
inductive Spelled (kept : Char → Prop) : List Char → Prop
  | nil : Spelled kept []
  | kept {c : Char} {cs : List Char} (hc : kept c) (h : Spelled kept cs) : Spelled kept (c :: cs)
  | escape {a b : Char} {cs : List Char} (ha : Hex.IsUpper a) (hb : Hex.IsUpper b) (h : Spelled kept cs) :
      Spelled kept ('%' :: a :: b :: cs)

theorem Spelled.escapes {kept : Char → Prop} (bs : List UInt8) {cs : List Char} (h : Spelled kept cs) :
    Spelled kept (bs.flatMap Percent.escape ++ cs) := by
  induction bs with
  | nil => exact h
  | cons b bs ih =>
    have hb : b.toNat < 256 := b.toNat_lt
    exact .escape (Hex.isUpper_upper _ (by omega)) (Hex.isUpper_upper _ (by omega)) ih

variable {safe : Char → Bool}

theorem spelled_encode {kept : Char → Prop} (hkept : ∀ c, safe c = true → kept c) (cs : List Char) :
    Spelled kept (encode safe cs) := by
  induction cs with
  | nil => exact .nil
  | cons c cs ih =>
    rw [encode_cons, encodeChar]
    split
    · next hc => exact .kept (hkept c hc) ih
    · exact ih.escapes _

/-- An escape takes more room than a character. -/
theorem length_encodeChar_of_not_safe {c : Char} (h : safe c = false) : 3 ≤ (encodeChar safe c).length := by
  obtain ⟨b, bs, hbytes⟩ := List.exists_cons_of_ne_nil (String.utf8EncodeChar_ne_nil (c := c))
  rw [encodeChar, h, hbytes]
  simp [escape, Hex.byte]

theorem length_le_encode (cs : List Char) : cs.length ≤ (encode safe cs).length := by
  induction cs with
  | nil => exact Nat.le_refl 0
  | cons c cs ih =>
    have hc : 1 ≤ (encodeChar safe c).length := by
      cases hsafe : safe c with
      | true => simp [encodeChar, hsafe]
      | false => exact Nat.le_trans (by decide) (length_encodeChar_of_not_safe hsafe)
    rw [encode_cons, List.length_append, List.length_cons]
    omega

/-- Escaping leaves a text alone exactly if all its characters are safe. -/
theorem encode_eq_self_iff (cs : List Char) : encode safe cs = cs ↔ ∀ c ∈ cs, safe c = true := by
  refine ⟨fun h => ?_, encode_of_safe⟩
  induction cs with
  | nil => simp
  | cons c cs ih =>
    cases hsafe : safe c with
    | true =>
      rw [encode_cons, encodeChar, if_pos hsafe, List.singleton_append, List.cons_inj_right] at h
      exact List.forall_mem_cons.2 ⟨hsafe, ih h⟩
    | false =>
      -- the escape of the first character has already used up more room than there is
      have hlength := congrArg List.length h
      have hone := length_encodeChar_of_not_safe hsafe
      have hrest : cs.length ≤ (encode safe cs).length := length_le_encode cs
      rw [encode_cons, List.length_append, List.length_cons] at hlength
      omega

end Percent

namespace Url

/-- Whether a text is put into normal form as another one. Reading it does that, save that it refuses what is too long. -/
def Becomes (text normal : String) : Prop :=
  ∃ u, ofParts (Parts.ofText text.toList) = .ok u ∧ u.text = normal ∧
    read text = if maxLength < text.length then .error .tooLong else .ok u

theorem Becomes.inj {text a b : String} (ha : Becomes text a) (hb : Becomes text b) : a = b := by
  obtain ⟨u, hu, rfl, -⟩ := ha
  obtain ⟨v, hv, rfl, -⟩ := hb
  rw [hu] at hv
  rw [Except.ok.inj hv]

/-- An address of a folder: a host, perhaps with a port, and a path in normal form that ends with a slash. -/
structure Folder where
  scheme : List Char
  host : String
  /-- what stands behind the first slash -/
  path : List Char
  web : IsWeb scheme
  plain : PlainHost host
  kept : ∀ c ∈ path, keptInPath c = true
  dotless : Dotless path
  closed : path = [] ∨ path.getLast? = some '/'

/-- Whether a host, perhaps with a port, is written the way addresses write it: a name in small letters, and no port that
the scheme stands for anyway. -/
def IsNormalHost (scheme : List Char) (text : String) : Prop :=
  ∃ host port, text.toList = hostText host ++ portText port ∧ HostForm host ∧ rereadHost host = host ∧
    ∀ n ∈ port, n.natAbs < 10 ^ Numeral.maxDigits ∧ defaultPort? scheme ≠ some n

namespace Folder

def text (f : Folder) : String :=
  String.ofList (addressText f.scheme f.host.toList f.path none)

theorem dotless_append (f : Folder) {path : List Char} (h : Dotless path) : Dotless ('/' :: (f.path ++ path)) := by
  have hroot : ∀ {rest : List Char}, Dotless rest → Dotless ('/' :: rest) := fun hrest =>
    (dotless_append_slash [] _).2 ⟨by decide, hrest⟩
  rcases f.closed with hempty | hslash
  · rw [hempty]
    exact hroot h
  · obtain ⟨folders, hfolders⟩ := List.getLast?_eq_some_iff.1 hslash
    have hdotless := f.dotless
    rw [hfolders] at hdotless
    rw [hfolders, List.append_assoc]
    exact hroot ((dotless_append_slash _ _).2 ⟨((dotless_append_slash _ _).1 hdotless).1, h⟩)

theorem toList_text (f : Folder) (path : List Char) :
    f.text.toList ++ path = addressText f.scheme f.host.toList (f.path ++ path) none := by
  simp [text, addressText]

theorem kept_append (f : Folder) {path : List Char} (hkept : ∀ c ∈ path, keptInPath c = true) :
    ∀ c ∈ f.path ++ path, keptInPath c = true := fun c hc =>
  (List.mem_append.1 hc).elim (f.kept c) (hkept c)

/-- Behind a folder, an address of kept characters is refused for its length alone. -/
theorem read_append (f : Folder) {path : String} (hkept : ∀ c ∈ path.toList, keptInPath c = true) :
    read (f.text ++ path) =
      if maxLength < (f.text ++ path).length then .error .tooLong else ofParts (Parts.ofText (f.text ++ path).toList) := by
  have hplain : ∀ c ∈ addressText f.scheme f.host.toList (f.path ++ path.toList) none, isPlain c = true :=
    plain_of_mem_addressText f.web f.plain (fun c hc => (plain_of_keptInPath (f.kept_append hkept c hc)).1) (by simp)
  have hread := read_of_isPlain hplain
  rwa [← f.toList_text, ← String.toList_append, String.ofList_toList, String.length_toList] at hread

/-- A path without dot segments is put behind a folder as it is. -/
theorem ofParts_append (f : Folder) : ∃ root : Url, root.query = none ∧ root.fragment = none ∧
    ∀ path : String, (∀ c ∈ path.toList, keptInPath c = true) → Dotless path.toList →
      ofParts (Parts.ofText (f.text ++ path).toList) = .ok { root with path := root.path ++ path } := by
  obtain ⟨host, port, hparts⟩ := ofParts_of_plainHost f.web f.plain
  refine ⟨⟨String.ofList f.scheme, "", host, port, String.ofList ('/' :: f.path), none, none⟩, rfl, rfl,
    fun path hkept hdotless => ?_⟩
  have hall := f.kept_append hkept
  have hroot : ∀ c ∈ '/' :: (f.path ++ path.toList), keptInPath c = true := List.forall_mem_cons.2 ⟨by decide, hall⟩
  have hofParts := hparts (f.path ++ path.toList) none (fun c hc => (plain_of_keptInPath (hall c hc)).2) (by simp)
  have hjoin : String.ofList ('/' :: (f.path ++ path.toList)) = String.ofList ('/' :: f.path) ++ path := by
    rw [← List.cons_append, String.ofList_append, String.ofList_toList]
  rw [removeDots_of_dotless (f.dotless_append hdotless), Percent.encodeAround_of_kept hroot, hjoin] at hofParts
  rw [String.toList_append, f.toList_text]
  exact hofParts

/-- What is made of an address behind a folder is what is read, unless it is too long. -/
theorem becomes_of_ofParts (f : Folder) {path : String} (hkept : ∀ c ∈ path.toList, keptInPath c = true) {u : Url}
    (hu : ofParts (Parts.ofText (f.text ++ path).toList) = .ok u) : Becomes (f.text ++ path) u.text :=
  ⟨u, hu, rfl, by rw [f.read_append hkept, hu]⟩

theorem becomes_append (f : Folder) : ∃ root, Becomes f.text root ∧
    ∀ path : String, (∀ c ∈ path.toList, keptInPath c = true) → Dotless path.toList →
      Becomes (f.text ++ path) (root ++ path) := by
  obtain ⟨root, hquery, hfragment, hparts⟩ := f.ofParts_append
  have hshown : ∀ path : String, ({ root with path := root.path ++ path } : Url).text = root.text ++ path := by
    intro path
    simp only [Url.text, hquery, hfragment, Option.elim_none, String.append_empty, String.append_assoc]
    rfl
  have hpaths : ∀ path : String, (∀ c ∈ path.toList, keptInPath c = true) → Dotless path.toList →
      Becomes (f.text ++ path) (root.text ++ path) := fun path hkept hdotless =>
    hshown path ▸ f.becomes_of_ofParts hkept (hparts path hkept hdotless)
  have hself := hpaths "" (by simp) (by decide)
  rw [String.append_empty, String.append_empty] at hself
  exact ⟨root.text, hself, hpaths⟩

theorem scheme_normal (f : Folder) :
    String.ofList f.scheme ≠ "" ∧ ∀ c ∈ f.scheme, isSchemeChar c = true ∧ c.toLower = c := by
  have hboth : String.ofList f.scheme ≠ "" ∧ f.scheme.all (fun c => isSchemeChar c && c.toLower == c) = true := by
    rcases f.web with h | h
    · rw [h]
      decide
    · rw [h]
      decide
  refine ⟨hboth.1, fun c hc => ?_⟩
  simpa using List.all_eq_true.1 hboth.2 c hc

/-- The address of a folder at a host that has been read. -/
def urlAt (f : Folder) (host : List Char) (port : Option Int) : Url :=
  ⟨String.ofList f.scheme, "", String.ofList host, port, String.ofList ('/' :: f.path), none, none⟩

theorem settled_urlAt (f : Folder) {host : List Char} {port : Option Int} (hform : HostForm host)
    (hport : ∀ n ∈ port, n.natAbs < 10 ^ Numeral.maxDigits) : Settled (f.urlAt host port) where
  absolute := f.scheme_normal.1
  scheme := by simpa [urlAt] using f.scheme_normal.2
  userinfo := by simp [urlAt]
  host := by simpa [urlAt] using hform
  port := hport
  path := by simpa [urlAt] using ⟨by decide, f.kept⟩
  dotless := by
    have hroot : Dotless ('/' :: (f.path ++ [])) := f.dotless_append (by decide)
    simpa [urlAt] using hroot
  rooted := .inr (by simp [urlAt])
  fragment := by simp [urlAt]

/-- Behind a host in normal form, a folder is in normal form. -/
theorem becomes_self (f : Folder) (h : IsNormalHost f.scheme f.host) : Becomes f.text f.text := by
  obtain ⟨host, port, htext, hform, hsame, hport⟩ := h
  have hsettled := f.settled_urlAt hform fun n hn => (hport n hn).1
  have hauthority : (f.urlAt host port).authority.toList = f.host.toList := by
    simp [urlAt, toList_authority, htext]
  have hparts : Parts.ofText f.text.toList = ⟨f.scheme, f.host.toList, '/' :: f.path, none, none⟩ := by
    have hstops : ∀ c ∈ f.host.toList, c ∉ ['/', '?', '#'] := by
      intro c hc
      have := (f.plain.plain c hc).2
      simp_all
    rw [text, String.toList_ofList]
    exact ofText_of_authority f.web hstops (fun c hc => (plain_of_keptInPath (f.kept c hc)).2) (by simp)
  -- reading the parts again changes neither the host nor the port
  have hreread : (f.urlAt host port).reread none = f.urlAt host port := by
    have hfilter : (port.filter fun n => defaultPort? f.scheme != some n) = port := by
      cases port with
      | none => rfl
      | some n => simpa [Option.filter] using (hport n rfl).2
    simp [urlAt, Url.reread, hsame, hfilter]
  have hofParts := hsettled.ofParts none
  rw [hauthority, hreread] at hofParts
  have hmade : ofParts (Parts.ofText (f.text ++ "").toList) = .ok (f.urlAt host port) := by
    rw [String.append_empty, hparts, ← hofParts]
    simp [urlAt]
  have htext : (f.urlAt host port).text = f.text := by
    rw [← String.toList_inj, hsettled.toList_text, stem, hauthority, text, addressText]
    simp [urlAt]
  have hself : Becomes (f.text ++ "") _ := f.becomes_of_ofParts (by simp) hmade
  rwa [String.append_empty, htext] at hself

end Folder

end Url

namespace Directory

/-- The characters of a key that stand for themselves. -/
def StandsForItself (c : Char) : Prop :=
  c.isAlphanum = true ∨ c ∈ "_.-~/=,:@;+&$".toList

theorem keptInKey_iff (c : Char) : keptInKey c = true ↔ StandsForItself c := by
  simp only [keptInKey, Percent.unreserved, StandsForItself, Bool.or_eq_true, beq_iff_eq, List.contains_iff_mem,
    String.reduceToList, List.mem_cons, List.not_mem_nil, or_false]
  tauto

theorem toList_entryPath (userKey : String) : (entryPath userKey).toList = Percent.encode keptInKey userKey.toList := by
  rw [entryPath, String.toList_ofList]

theorem entryPath_append (a b : String) : entryPath (a ++ b) = entryPath a ++ entryPath b := by
  rw [← String.toList_inj, String.toList_append, toList_entryPath, toList_entryPath, toList_entryPath,
    String.toList_append, Percent.encode_append]

theorem entryPath_inj {a b : String} : entryPath a = entryPath b ↔ a = b := by
  rw [← String.toList_inj, toList_entryPath, toList_entryPath, Percent.encode_inj keptInKey_percent, String.toList_inj]

/-- The groups of a user are listed at the path of a longer key. -/
theorem groupsPath_eq (userKey : String) : groupsPath userKey = entryPath (userKey ++ "/groups") := by
  have hgroups : entryPath "/groups" = "/groups" := by decide
  rw [entryPath_append, hgroups, groupsPath]

theorem keptInPath_of_mem_entryPath {userKey : String} {c : Char} (h : c ∈ (entryPath userKey).toList) :
    Url.keptInPath c = true := by
  rw [toList_entryPath] at h
  obtain ⟨hpercent, hdigit⟩ := Url.kept_escapes.2.1
  rcases Percent.of_mem_encode h with ⟨hc, -⟩ | rfl | ⟨n, hn, rfl⟩
  · exact keptInPath_of_keptInKey hc
  · exact hpercent
  · exact hdigit _ (Percent.isDigit_upper hn)

theorem dotless_entryPath {userKey : String} (h : Url.Dotless userKey.toList) :
    Url.Dotless (entryPath userKey).toList := by
  rw [toList_entryPath]
  exact Url.dotless_encode (by decide) h

theorem dotless_groups {userKey : String} (h : Url.Dotless userKey.toList) :
    Url.Dotless (userKey ++ "/groups").toList := by
  have hgroups : (userKey ++ "/groups").toList = userKey.toList ++ '/' :: "groups".toList := by simp
  rw [hgroups, Url.dotless_append_slash]
  exact ⟨h, by decide⟩

/-- A lookup is sent to what the address of its path is read as. -/
theorem url_of_request {d : Directory} {path normal : String} (h : Url.Becomes (d.baseUrl ++ path) normal)
    {headers : Table Text} {asked : Request} (hr : d.request path headers = .ok asked) : asked.url.text = normal := by
  obtain ⟨u, -, rfl, hread⟩ := h
  rw [Directory.request, hread] at hr
  split at hr
  · cases hr
  · exact congrArg Url.text (Request.of_make_get hr).2

/-- Unless its address is too long, a lookup without headers is sent. -/
theorem exists_request {d : Directory} {path normal : String} (h : Url.Becomes (d.baseUrl ++ path) normal)
    (hfit : (d.baseUrl ++ path).length ≤ Url.maxLength) : ∃ asked, d.request path [] = .ok asked := by
  obtain ⟨u, -, -, hread⟩ := h
  rw [if_neg (Nat.not_lt.2 hfit)] at hread
  obtain ⟨asked, hmake, -⟩ := Request.make_get u
  refine ⟨asked, ?_⟩
  rw [Directory.request, hread]
  exact hmake

/-- The folder that the keys of a provider's directory are put behind. -/
def providerFolder (host : String) (h : Url.PlainHost host) : Url.Folder where
  scheme := "http".toList
  host := host
  path := "user/".toList
  web := .inl rfl
  plain := h
  kept := List.all_eq_true.1 (by decide)
  dotless := by decide
  closed := .inr (by decide)

theorem text_providerFolder {host : String} (h : Url.PlainHost host) :
    (providerFolder host h).text = Provider.directoryUrl host := by
  rw [← String.toList_inj]
  simp [providerFolder, Url.Folder.text, Url.addressText, Provider.directoryUrl]

/-- Escaping a user key loses nothing, and behind a plain host its escapes stay as they are when the address is read. -/
theorem entryPath_lossless (userKey : String) :
    Percent.Spelled StandsForItself (entryPath userKey).toList ∧
      Percent.bytes (entryPath userKey).toList = Utf8.encode userKey.toList ∧
      Percent.decode (entryPath userKey).toList = userKey.toList ∧
      (∀ other, entryPath other = entryPath userKey ↔ other = userKey) ∧
      (∀ other, entryPath (userKey ++ other) = entryPath userKey ++ entryPath other) ∧
      (entryPath userKey = userKey ↔ ∀ c ∈ userKey.toList, StandsForItself c) ∧
      ∀ folder : Url.Folder, Url.Dotless userKey.toList →
        ∃ root, Url.Becomes folder.text root ∧ (Url.IsNormalHost folder.scheme folder.host → root = folder.text) ∧
          ∀ path ∈ [entryPath userKey, groupsPath userKey],
            Url.Becomes (folder.text ++ path) (root ++ path) ∧ ∀ d : Directory, d.baseUrl = folder.text →
              ((folder.text ++ path).length ≤ Url.maxLength → ∃ asked, d.request path [] = .ok asked) ∧
                ∀ headers asked, d.request path headers = .ok asked → asked.url.text = root ++ path := by
  refine ⟨?_, ?_, ?_, fun other => entryPath_inj, entryPath_append userKey, ?_, fun folder hdotless => ?_⟩
  · rw [toList_entryPath]
    exact Percent.spelled_encode (fun c => (keptInKey_iff c).1) _
  · rw [toList_entryPath, Percent.bytes_encode keptInKey_percent]
  · rw [toList_entryPath, Percent.decode_encode keptInKey_percent]
  · rw [← String.toList_inj, toList_entryPath, Percent.encode_eq_self_iff]
    simp only [keptInKey_iff]
  · obtain ⟨root, hroot, happend⟩ := folder.becomes_append
    have hkey : ∀ key : String, Url.Dotless key.toList →
        Url.Becomes (folder.text ++ entryPath key) (root ++ entryPath key) := fun key hkey =>
      happend _ (fun c => keptInPath_of_mem_entryPath) (dotless_entryPath hkey)
    refine ⟨root, hroot, fun hhost => hroot.inj (folder.becomes_self hhost), fun path hpath => ?_⟩
    have hbecomes : Url.Becomes (folder.text ++ path) (root ++ path) := by
      rcases List.mem_cons.1 hpath with rfl | hpath
      · exact hkey userKey hdotless
      · obtain rfl := List.mem_singleton.1 hpath
        rw [groupsPath_eq]
        exact hkey _ (dotless_groups hdotless)
    refine ⟨hbecomes, fun d hd => ?_⟩
    rw [← hd] at hbecomes ⊢
    exact ⟨exists_request hbecomes, fun headers asked => url_of_request hbecomes⟩

/-- A key with a percent sign that looks like an escape, behind a host with a port. -/
theorem entryPath_lossless_of_percent :
    entryPath "ou=people/uid=é %41" = "ou=people/uid=%C3%A9%20%2541" ∧ Url.Dotless "ou=people/uid=é %41".toList ∧
      Url.Becomes "http://id.test:8080/user/ou=people/uid=%C3%A9%20%2541"
        "http://id.test:8080/user/ou=people/uid=%C3%A9%20%2541" ∧
      Url.Becomes "http://id.test:8080/user/ou=people/uid=%C3%A9%20%2541/groups"
        "http://id.test:8080/user/ou=people/uid=%C3%A9%20%2541/groups" := by
  have hhost : Url.PlainHost "id.test:8080" := by
    refine ⟨"id.test".toList, ":8080".toList, by decide, ?_, ?_⟩
    · exact ⟨by decide, Url.plain_of_all (by decide), .inr (by decide), "id.test", by decide +kernel⟩
    · exact ⟨Url.plain_of_all (by decide), .inr ⟨"8080".toList, by decide⟩, some 8080, by decide +kernel⟩
  have hnormal : Url.IsNormalHost "http".toList "id.test:8080" := by
    refine ⟨"id.test".toList, some 8080, by decide +kernel, ?_, by decide, ?_⟩
    · have hlower : "id.test".toList.all (fun c => c.toLower == c) = true := by decide
      exact .name (by decide) (List.all_eq_true.1 (by decide)) (fun _ c hc => by simpa using List.all_eq_true.1 hlower c hc)
        (by decide)
    · intro n hn
      obtain rfl := Option.mem_some_iff.1 hn
      exact ⟨Nat.lt_of_lt_of_le (by decide : Int.natAbs 8080 < 10 ^ 4) (Nat.pow_le_pow_right (by decide) (by decide)),
        by decide⟩
  have hkey : entryPath "ou=people/uid=é %41" = "ou=people/uid=%C3%A9%20%2541" := by decide +kernel
  have hdotless : Url.Dotless "ou=people/uid=é %41".toList := by decide
  obtain ⟨-, -, -, -, -, -, hfolders⟩ := entryPath_lossless "ou=people/uid=é %41"
  obtain ⟨root, -, hroot, hpaths⟩ := hfolders (providerFolder _ hhost) hdotless
  obtain rfl := hroot hnormal
  have hentry : Provider.directoryUrl "id.test:8080" ++ "ou=people/uid=%C3%A9%20%2541" =
      "http://id.test:8080/user/ou=people/uid=%C3%A9%20%2541" := by decide
  have hgroups : Provider.directoryUrl "id.test:8080" ++ ("ou=people/uid=%C3%A9%20%2541" ++ "/groups") =
      "http://id.test:8080/user/ou=people/uid=%C3%A9%20%2541/groups" := by decide
  rw [text_providerFolder, groupsPath, hkey] at hpaths
  exact ⟨hkey, hdotless, hentry ▸ (hpaths _ (List.mem_cons_self ..)).1,
    hgroups ▸ (hpaths _ (List.mem_cons_of_mem _ (List.mem_cons_self ..))).1⟩

end Directory

end SignOn
