import SignOn.Proofs.Membership
import SignOn.Proofs.Precedence

/-!
Which groups an allow-list lets in that is written as one text. Between commas no name is empty, but an array may hold an
empty name; then, and only then, a group without a name lets its members in.
-/

namespace SignOn

namespace AllowList

/-- A text without white space at its ends. -/
def bare (text : String) : List Char :=
  Blank.trim Blank.isBlank text.toList

/-- Whether a text names a group: as an item of the array that it opens, or else between its commas, where an empty name is
none. -/
def Names (text : String) (name : Text) : Prop :=
  if (bare text).head? = some '[' then ∃ items, Json.read (bare text) = .ok (.arr items) ∧ .str name ∈ items
  else name ≠ "" ∧ ∃ part ∈ Text.cut ',' (bare text), String.ofList (Blank.trim Blank.isBlank part) = name

/-- The empty name is named by arrays alone. -/
theorem names_empty_iff (text : String) :
    Names text "" ↔ (bare text).head? = some '[' ∧
      ∃ items, Json.read (bare text) = .ok (.arr items) ∧ .str "" ∈ items := by
  unfold Names
  split
  · next hopen => simp [hopen]
  · next hopen => simp [hopen]

theorem mem_split_iff (cs : List Char) (name : Text) :
    name ∈ (split cs).map Text.whole ↔ name ≠ "" ∧ ∃ part ∈ Text.cut ',' cs, String.ofList (Blank.trim Blank.isBlank part) = name := by
  constructor
  · intro h
    obtain ⟨name, hname, rfl⟩ := List.mem_map.1 h
    obtain ⟨part, hpart, rfl⟩ := List.mem_map.1 hname
    obtain ⟨hmem, -⟩ := List.mem_filter.1 hpart
    obtain ⟨raw, hraw, rfl⟩ := List.mem_map.1 hmem
    exact ⟨fun hempty => ne_empty_of_mem_split hname (Text.whole.inj hempty), raw, hraw, rfl⟩
  · rintro ⟨hne, raw, hraw, rfl⟩
    refine List.mem_map_of_mem (List.mem_map.2 ⟨_, List.mem_filter.2 ⟨List.mem_map_of_mem hraw, ?_⟩, rfl⟩)
    cases htrim : Blank.trim Blank.isBlank raw with
    | nil => exact absurd (by rw [htrim]) hne
    | cons c cs => rfl

end AllowList

namespace Settings

/-- An allow-list that is accepted as a text holds just the names that the text names. -/
theorem mem_readGroups_iff {text : String} {groups : List Text} (h : readGroups (.str text) = .valid groups)
    (name : Text) : name ∈ groups ↔ AllowList.Names text name := by
  have hread : AllowList.read text = .ok (Json.ofTexts groups) := by
    cases hread : AllowList.read text with
    | error fault =>
      simp only [readGroups, hread] at h
      cases h
    | ok v =>
      simp only [readGroups, hread] at h
      rw [(texts_eq_valid_iff _ v groups).1 h]
  -- both sides split on the same bracket
  unfold AllowList.read at hread
  unfold AllowList.Names AllowList.bare
  dsimp only at hread
  split at hread
  · next hopen =>
    rw [if_pos hopen, hread]
    simp [Json.ofTexts]
  · next hopen =>
    have hsplit : (AllowList.split (Blank.trim Blank.isBlank text.toList)).map Text.whole = groups := by
      have hmap := Json.arr.inj (Except.ok.inj hread)
      exact (List.map_inj_right fun _ _ h => Json.str.inj h).1 hmap
    rw [if_neg hopen, ← AllowList.mem_split_iff, hsplit]

end Settings

namespace GroupCheck

variable (c : GroupCheck) (userKey : Text) (n : Network)

/-- Whether the directory behind a network knows a user and lists some groups. -/
def Told (groups : List GroupInfo) : Prop :=
  ∃ entryRequest groupsRequest entry,
    c.entryRequest userKey = .ok entryRequest ∧ c.groupsRequest userKey = .ok groupsRequest ∧
      (n.ask entryRequest).1.Tells .directoryEntry entry ∧
      ((n.ask entryRequest).2.ask groupsRequest).1.Tells .groups groups

theorem lists_iff : c.Lists userKey n ↔ ∃ groups, c.Told userKey n groups ∧ ∃ g ∈ groups, g.name ∈ c.allowed := by
  constructor
  · rintro ⟨e, g, entry, groups, he, hg, hte, htg, hin⟩
    exact ⟨groups, ⟨e, g, entry, he, hg, hte, htg⟩, hin⟩
  · rintro ⟨groups, ⟨e, g, entry, he, hg, hte, htg⟩, hin⟩
    exact ⟨e, g, entry, groups, he, hg, hte, htg, hin⟩

end GroupCheck

namespace ServiceSettings

variable {src : Sources} {serviceName port : Json} {st : ServiceSettings} {text : String}

/-- The allow-list of the provider holds just the names that its text names. -/
theorem mem_allowed_iff (h : read serviceName port src = .ok st) (hv : src.value? .allowedGroups = some (.str text))
    (name : Text) : name ∈ st.provider.groupCheck.allowed ↔ AllowList.Names text name := by
  obtain ⟨-, -, hcheck, -⟩ := (read_eq_ok_iff src serviceName port st).1 h
  obtain ⟨-, -, -, -, -, hgroups, -⟩ := (Settings.check_eq_valid_iff_settings ..).1 hcheck
  rw [Settings.setting, hv] at hgroups
  have hread : Settings.readGroups (.str text) = .valid st.allowedGroups := (Checked.within_eq_valid_iff ..).1 hgroups
  rw [← Settings.mem_readGroups_iff hread]
  exact List.mem_eraseDups

/-- Whoever is let in is so through a group that the allow-list names. A group without a name lets nobody in, unless the
allow-list is an array that holds an empty name. -/
theorem validateGroup_eq_true_iff_named (h : read serviceName port src = .ok st)
    (hv : src.value? .allowedGroups = some (.str text)) :
    (∀ name, name ∈ st.provider.groupCheck.allowed ↔ AllowList.Names text name) ∧
      (AllowList.Names text "" ↔ (AllowList.bare text).head? = some '[' ∧
        ∃ items, Json.read (AllowList.bare text) = .ok (.arr items) ∧ .str "" ∈ items) ∧
      ∀ (s : Session) (timeout : Option Binary64) (site : Site),
        ((st.provider.validateGroup s timeout site).1 = .ok true ↔ s.user ≠ "" ∧
          ∃ groups, st.provider.groupCheck.Told s.user site.network groups ∧ ∃ g ∈ groups, AllowList.Names text g.name) ∧
        (¬AllowList.Names text "" → (st.provider.validateGroup s timeout site).1 = .ok true →
          ∃ groups, st.provider.groupCheck.Told s.user site.network groups ∧
            ∃ g ∈ groups, g.name ≠ "" ∧ AllowList.Names text g.name) := by
  refine ⟨mem_allowed_iff h hv, AllowList.names_empty_iff text, fun s timeout site => ?_⟩
  have hiff : (st.provider.validateGroup s timeout site).1 = .ok true ↔ s.user ≠ "" ∧
      ∃ groups, st.provider.groupCheck.Told s.user site.network groups ∧ ∃ g ∈ groups, AllowList.Names text g.name := by
    rw [Provider.validateGroup, GroupCheck.isAuthorized_eq_true_iff, GroupCheck.lists_iff]
    simp only [mem_allowed_iff h hv]
  refine ⟨hiff, fun hnamed hin => ?_⟩
  obtain ⟨-, groups, htold, g, hg, hname⟩ := hiff.1 hin
  refine ⟨groups, htold, g, hg, ?_, hname⟩
  rintro hempty
  rw [hempty] at hname
  exact hnamed hname

/-- A member of a group between commas, who is in a group without a name as well. -/
theorem validateGroup_eq_true_iff_named_of_commas :
    let text := " ops ,, eng"
    let src : Sources := { environment := [("sso_allowed_groups", text), ("IDENTITY_HOST", "id.test")] }
    let st : ServiceSettings :=
      { environment := "local", logLevel := "info", signOnHost := "localhost:8443", identityHost := "id.test"
        allowedGroups := ["ops", "eng"], loginUrl := none, redeemUrl := none, profileUrl := none, validateUrl := none
        scope := "", requestTimeout := ProviderData.tenSeconds, extras := [], serviceName := "sso", port := 8013
        host := "0.0.0.0" }
    let site : Site :=
      { network := { script := [.told "\x7b\x7d", .told "[\x7b\x7d, \x7b\x22name\x22: \x22eng\x22\x7d]"] } }
    read (.str "sso") (.int 8013) src = .ok st ∧ src.value? .allowedGroups = some (.str text) ∧
      (st.provider.validateGroup { user := "uid=j" } none site).1 = .ok true ∧ ¬AllowList.Names text "" ∧
      ∃ groups, st.provider.groupCheck.Told "uid=j" site.network groups ∧
        ∃ g ∈ groups, g.name ≠ "" ∧ AllowList.Names text g.name := by
  intro text src st site
  have hread : read (.str "sso") (.int 8013) src = .ok st := by decide +kernel
  have hv : src.value? .allowedGroups = some (.str text) := by decide +kernel
  have hin : (st.provider.validateGroup { user := "uid=j" } none site).1 = .ok true := by decide +kernel
  obtain ⟨-, hempty, hgroups⟩ := validateGroup_eq_true_iff_named hread hv
  have hcommas : ¬AllowList.Names text "" := by
    rw [hempty]
    rintro ⟨hopen, -⟩
    exact absurd hopen (by decide +kernel)
  exact ⟨hread, hv, hin, hcommas, (hgroups { user := "uid=j" } none site).2 hcommas hin⟩

/-- An array with an empty name lets in whoever is in a group without a name. -/
theorem validateGroup_of_nameless_group :
    let src : Sources := { environment := [("SSO_ALLOWED_GROUPS", "[\x22\x22]")] }
    let st : ServiceSettings :=
      { environment := "local", logLevel := "info", signOnHost := "localhost:8443", identityHost := "localhost:8090"
        allowedGroups := [""], loginUrl := none, redeemUrl := none, profileUrl := none, validateUrl := none
        scope := "", requestTimeout := ProviderData.tenSeconds, extras := [], serviceName := "sso", port := 8013
        host := "0.0.0.0" }
    let site : Site := { network := { script := [.told "\x7b\x7d", .told "[\x7b\x7d]"] } }
    read (.str "sso") (.int 8013) src = .ok st ∧ ("" : Text) ∈ st.provider.groupCheck.allowed ∧
      (st.provider.validateGroup { user := "uid=j" } none site).1 = .ok true := by
  decide +kernel

end ServiceSettings

end SignOn
