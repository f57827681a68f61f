import SignOn.Proofs.Nameless
import SignOn.Proofs.Segments
import SignOn.Proofs.Spellings

/-!
Allow-lists through the text that they are given by. The text of an array gives back any list, whatever its spelling;
names between commas give back the list exactly when none of them could be taken for something else.
-/

namespace SignOn

namespace AllowList

/-- Whether a list of names can be written with commas: no name is empty, has white space at an end or holds a comma, and
the first does not begin like an array. -/
structure Joinable (names : List String) : Prop where
  nonempty : ∀ name ∈ names, name ≠ ""
  trimmed : ∀ name ∈ names, Blank.trim Blank.isBlank name.toList = name.toList
  commaless : ∀ name ∈ names, ',' ∉ name.toList
  unbracketed : ∀ name ∈ names.head?, name.toList.head? ≠ some '['

/-- The names of a list with commas between them. -/
def joined (names : List String) : List Char :=
  [','].intercalate (names.map String.toList)

theorem head?_joined {name : String} (names : List String) (h : name ≠ "") :
    (joined (name :: names)).head? = name.toList.head? := by
  have hne : name.toList ≠ [] := fun he => h (String.toList_eq_nil_iff.1 he)
  obtain ⟨c, cs, hcs⟩ := List.exists_cons_of_ne_nil hne
  cases names with
  | nil => simp [joined]
  | cons second names => simp [joined, hcs]

theorem joined_ne_nil {name : String} (names : List String) (h : name ≠ "") : joined (name :: names) ≠ [] := by
  intro he
  have hhead := head?_joined names h
  rw [he, List.head?_nil, eq_comm, List.head?_eq_none_iff, String.toList_eq_nil_iff] at hhead
  exact h hhead

/-- The ends of the names' text are ends of names. -/
theorem bare_joined {names : List String} (h : Joinable names) : Blank.Bare Blank.isBlank (joined names) := by
  have hbare : ∀ name ∈ names, Blank.Bare Blank.isBlank name.toList := fun name hin =>
    (Blank.trim_eq_self_iff _).1 (h.trimmed name hin)
  have hnonempty := h.nonempty
  clear h
  induction names with
  | nil => exact ⟨nofun, nofun⟩
  | cons name names ih =>
    obtain ⟨hfirst, hlast⟩ := hbare name (List.mem_cons_self ..)
    have hhead := head?_joined names (hnonempty name (List.mem_cons_self ..))
    have hrest := ih (fun n hn => hbare n (List.mem_cons_of_mem _ hn)) fun n hn => hnonempty n (List.mem_cons_of_mem _ hn)
    refine ⟨hhead ▸ hfirst, ?_⟩
    cases names with
    | nil => simpa [joined] using hlast
    | cons second names =>
      have hne := joined_ne_nil names (hnonempty second (List.mem_cons_of_mem _ (List.mem_cons_self ..)))
      have hsplit : joined (name :: second :: names) = (name.toList ++ [',']) ++ joined (second :: names) := by
        simp [joined]
      rw [hsplit, List.getLast?_append, List.getLast?_eq_some_getLast hne, Option.some_or,
        ← List.getLast?_eq_some_getLast hne]
      exact hrest.2

theorem split_joined {names : List String} (h : Joinable names) : split (joined names) = names := by
  cases names with
  | nil => rfl
  | cons name names =>
    have hcut : Text.cut ',' (joined (name :: names)) = (name :: names).map String.toList :=
      Text.cut_intercalate (by simp) (List.forall_mem_map.2 h.commaless)
    have htrim : ((name :: names).map String.toList).map (Blank.trim Blank.isBlank) =
        (name :: names).map String.toList := by
      rw [List.map_map]
      exact List.map_congr_left h.trimmed
    have hkept : ((name :: names).map String.toList).filter (!·.isEmpty) = (name :: names).map String.toList := by
      refine List.filter_eq_self.2 (List.forall_mem_map.2 fun n hn => ?_)
      have hne : n.toList ≠ [] := fun he => h.nonempty n hn (String.toList_eq_nil_iff.1 he)
      simpa using hne
    rw [split, hcut, htrim, hkept, List.map_map]
    simp [Function.comp_def]

/-- Names with commas between them are read as they were, if the list can be written so. -/
theorem read_joined {names : List String} (h : Joinable names) :
    read (String.ofList (joined names)) = .ok (Json.ofTexts (names.map .whole)) := by
  have hopen : (joined names).head? ≠ some '[' := by
    cases names with
    | nil => nofun
    | cons name names =>
      rw [head?_joined names (h.nonempty name (List.mem_cons_self ..))]
      exact h.unbracketed name rfl
  unfold read
  dsimp only
  rw [String.toList_ofList, (Blank.trim_eq_self_iff _).2 (bare_joined h), if_neg hopen, split_joined h]

theorem joinable_of_split {cs : List Char} {names : List String} (h : split cs = names)
    (hfirst : ∀ name ∈ names.head?, name.toList.head? ≠ some '[') : Joinable names := by
  have hpart : ∀ name ∈ names, ∃ part, ',' ∉ part ∧ name.toList = Blank.trim Blank.isBlank part := by
    intro name hin
    obtain ⟨-, part, hpart, hname⟩ := (mem_split_iff cs name).1 (List.mem_map_of_mem (h ▸ hin))
    obtain rfl := Text.whole.inj hname
    exact ⟨part, Text.not_mem_of_mem_cut hpart, String.toList_ofList⟩
  refine ⟨?_, ?_, ?_, hfirst⟩
  · exact fun name hin => ne_empty_of_mem_split (h ▸ hin)
  · intro name hin
    obtain ⟨part, -, hname⟩ := hpart name hin
    rw [hname, Blank.trim_eq_self_iff]
    exact Blank.bare_trim _ part
  · intro name hin hcomma
    obtain ⟨part, hno, hname⟩ := hpart name hin
    rw [hname] at hcomma
    exact hno (Blank.mem_of_mem_trim hcomma)

/-- A text that opens a bracket still does so without the white space around it. -/
theorem head?_trim_of_bracket {cs : List Char} (h : cs.head? = some '[') :
    (Blank.trim Blank.isBlank cs).head? = some '[' := by
  obtain ⟨more, rfl⟩ := List.head?_eq_some_iff.1 h
  have hno : Blank.isBlank '[' = false := by decide
  have hfront := Blank.dropWhile_eq_trim_append Blank.isBlank ('[' :: more)
  rw [List.dropWhile_cons_of_neg (by simp [hno])] at hfront
  cases htrim : Blank.trim Blank.isBlank ('[' :: more) with
  | nil =>
    have hin : '[' ∈ ('[' :: more).reverse.takeWhile Blank.isBlank := by
      rw [htrim, List.nil_append] at hfront
      rw [← List.mem_reverse, ← hfront]
      exact List.mem_cons_self ..
    exact absurd (List.mem_takeWhile_imp hin) (by simp [hno])
  | cons c cs =>
    rw [htrim] at hfront
    obtain ⟨rfl, -⟩ := List.cons.inj hfront
    rfl

/-- Names with commas between them are read as they were only if the list can be written so. An array in the text would be
shorter than the names. -/
theorem joinable_of_read {names : List String}
    (h : read (String.ofList (joined names)) = .ok (Json.ofTexts (names.map .whole))) : Joinable names := by
  unfold read at h
  dsimp only at h
  rw [String.toList_ofList] at h
  split at h
  · have hlength : (joined names).length < (Blank.trim Blank.isBlank (joined names)).length := Json.length_lt_of_read h
    have htrim := Blank.length_trim_le Blank.isBlank (joined names)
    omega
  · next hopen =>
    have htexts : (split (Blank.trim Blank.isBlank (joined names))).map Text.whole = names.map .whole :=
      (List.map_inj_right fun _ _ h => Json.str.inj h).1 (Json.arr.inj (Except.ok.inj h))
    have hsplit : split (Blank.trim Blank.isBlank (joined names)) = names :=
      (List.map_inj_right fun _ _ h => Text.whole.inj h).1 htexts
    have hnonempty : ∀ name ∈ names, name ≠ "" := fun name hin => ne_empty_of_mem_split (hsplit.symm ▸ hin)
    refine joinable_of_split hsplit fun name hin hbracket => hopen (head?_trim_of_bracket ?_)
    obtain ⟨more, rfl⟩ := List.head?_eq_some_iff.1 hin
    rw [head?_joined more (hnonempty name (List.mem_cons_self ..)), hbracket]

end AllowList

namespace Settings

theorem readGroups_ofTexts (names : List Text) : readGroups (Json.ofTexts names) = .valid names :=
  (texts_eq_valid_iff .notList _ names).2 rfl

theorem readGroups_joined_iff (names : List String) :
    readGroups (.str (",".intercalate names)) = .valid (names.map .whole) ↔ AllowList.Joinable names := by
  have hjoined : ",".intercalate names = String.ofList (AllowList.joined names) := by
    rw [← String.toList_inj, String.toList_intercalate, String.toList_ofList, String.toList_ofList]
    rfl
  rw [readGroups_str_iff, hjoined]
  exact ⟨AllowList.joinable_of_read, AllowList.read_joined⟩

/-- The text of an array gives its list back, whatever white space stands around it. -/
theorem readGroups_listText {names : List String} {cs lead trail : List Char} (h : Json.ListText names cs)
    (hlead : ∀ c ∈ lead, Blank.isBlank c = true) (htrail : ∀ c ∈ trail, Blank.isBlank c = true) :
    readGroups (.str (String.ofList (lead ++ (cs ++ trail)))) = .valid (names.map .whole) := by
  obtain ⟨inner, rfl⟩ : ∃ inner, cs = '[' :: (inner ++ [']']) := by
    cases h with
    | empty | items => exact ⟨_, rfl⟩
  have hbare : Blank.Bare Blank.isBlank ('[' :: (inner ++ [']'])) := by
    refine ⟨?_, ?_⟩
    · intro c hc
      obtain rfl := Option.some.inj hc
      decide
    · intro c hc
      rw [← List.cons_append, List.getLast?_concat] at hc
      obtain rfl := Option.some.inj hc
      decide
  rw [readGroups_str_iff]
  unfold AllowList.read
  dsimp only
  rw [String.toList_ofList, Blank.trim_of_bare hbare (by simp) hlead htrail, List.head?_cons, if_pos rfl]
  exact Json.read_listText h

end Settings

namespace Sources

/-- Whether the allow-list is given with a value, or is not given and stands in the environment as a text. -/
def Says (src : Sources) (v : Json) : Prop :=
  src.given? .allowedGroups = some v ∨
    src.given? .allowedGroups = none ∧ ∃ text, src.inEnvironment? .allowedGroups = some text ∧ .str text = v

/-- The same sources, with the allow-list given as a value. -/
def giving (src : Sources) (v : Json) : Sources :=
  { src with given := ("allowed_groups", v) :: src.given }

variable {src : Sources}

theorem Says.value? {v : Json} (h : src.Says v) : src.value? .allowedGroups = some v := by
  rcases h with h | ⟨hnone, text, henv, rfl⟩
  · exact value?_of_given h
  · exact value?_of_environment hnone henv

theorem value?_giving (v : Json) : (src.giving v).value? .allowedGroups = some v :=
  value?_of_given rfl

theorem value?_giving_of_ne (v : Json) {s : Setting} (h : s ≠ .allowedGroups) :
    (src.giving v).value? s = src.value? s := by
  have hkeys : ∀ key ∈ s.keys, ("allowed_groups" : Text) ≠ key := by
    cases s with
    | allowedGroups => exact absurd rfl h
    | _ => decide
  have hgiven : (src.giving v).given? s = src.given? s := by
    refine findSome?_congr fun key hkey => ?_
    rw [giving, Table.get?_cons, if_neg (hkeys key hkey)]
  rw [Sources.value?, Sources.value?, hgiven]
  rfl

theorem extras_giving (v : Json) {settings : List Setting} (h : .allowedGroups ∈ settings) :
    (src.giving v).extras settings = src.extras settings := by
  have hknown : (settings.any fun setting => setting.keys.any fun key => ("allowed_groups" : Text) == key) = true :=
    List.any_eq_true.2 ⟨_, h, by decide⟩
  unfold extras
  rw [giving, List.filter_cons_of_neg (by rw [hknown]; decide)]
  rfl

end Sources

namespace Settings

variable {src : Sources} {v : Json} {names : List Text}

theorem setting_giving (hv : src.value? .allowedGroups = some v) (hr : readGroups v = .valid names) :
    setting (src.giving (Json.ofTexts names)) .allowedGroups [] readGroups =
      setting src .allowedGroups [] readGroups := by
  rw [setting, setting, Sources.value?_giving, hv]
  dsimp only
  rw [hr, readGroups_ofTexts]

theorem setting_giving_of_ne {α : Type} (w : Json) {s : Setting} (h : s ≠ .allowedGroups) (otherwise : α)
    (check : Json → Checked α) : setting (src.giving w) s otherwise check = setting src s otherwise check := by
  rw [setting, Sources.value?_giving_of_ne w h]
  rfl

theorem check_giving (hv : src.value? .allowedGroups = some v) (hr : readGroups v = .valid names)
    (extras : Json.Members) : check (src.giving (Json.ofTexts names)) extras = check src extras := by
  simp (disch := decide) only [check, setting_giving hv hr, setting_giving_of_ne]

theorem conclude_giving {α : Type} (hv : src.value? .allowedGroups = some v) (hr : readGroups v = .valid names)
    (checked : Checked α) : conclude (src.giving (Json.ofTexts names)) checked = conclude src checked := by
  have hdeep : tooDeep? v = none := tooDeep?_of_valid hr
  have hdeep' : tooDeep? (Json.ofTexts names) = none := rfl
  unfold conclude
  rw [Sources.value?_giving, hv, Option.bind_some, Option.bind_some, hdeep, hdeep']

end Settings

namespace ServiceSettings

variable {src : Sources} {v serviceName port : Json} {names : List Text} {st : ServiceSettings}

/-- The check of all that a service is told. -/
def checkTold (serviceName port : Json) (told : Sources) : Checked ServiceSettings :=
  (fun settings serviceName port host => { settings with serviceName, port, host }) <$>
    Settings.check told (told.extras Setting.ofService) <*>
    (Field.wholeText serviceName).within Setting.serviceName.name <*> (Field.int port).within Setting.port.name <*>
    Settings.setting told .host "0.0.0.0" Field.wholeText

theorem read_eq_conclude (serviceName port : Json) (src : Sources) :
    read serviceName port src =
      if src.given.any fun m => ownNames.contains m.1 then .error (.broken .wrongType "a setting is given twice")
      else Settings.conclude (src.told serviceName port) (checkTold serviceName port (src.told serviceName port)) := rfl

/-- An allow-list that is read from a value might as well have been given as a list. -/
theorem read_giving (hv : src.value? .allowedGroups = some v) (hr : Settings.readGroups v = .valid names) :
    read serviceName port (src.giving (Json.ofTexts names)) = read serviceName port src := by
  have htold : (src.giving (Json.ofTexts names)).told serviceName port =
      (src.told serviceName port).giving (Json.ofTexts names) := rfl
  have hv' : (src.told serviceName port).value? .allowedGroups = some v := by
    rwa [Sources.value?_told serviceName port (by decide) (by decide)]
  have hown : ((src.giving (Json.ofTexts names)).given.any fun m => ownNames.contains m.1) =
      src.given.any fun m => ownNames.contains m.1 := rfl
  rw [read_eq_conclude, read_eq_conclude, hown, htold, Settings.conclude_giving hv' hr, checkTold, checkTold,
    Sources.extras_giving _ (by decide), Settings.check_giving hv' hr, Settings.setting_giving_of_ne _ (by decide)]

theorem readGroups_of_read (hv : src.value? .allowedGroups = some v) (h : read serviceName port src = .ok st) :
    Settings.readGroups v = .valid st.allowedGroups := by
  obtain ⟨-, -, hcheck, -⟩ := (read_eq_ok_iff src serviceName port st).1 h
  obtain ⟨-, -, -, -, -, hgroups, -⟩ := (Settings.check_eq_valid_iff_settings ..).1 hcheck
  rw [Settings.setting, hv] at hgroups
  exact (Checked.within_eq_valid_iff ..).1 hgroups

/-- Whether sources come to an allow-list: they are read like sources that give the list itself, and whatever is read of
them has this list, and a provider that lets in just its names. -/
structure ComesTo (src : Sources) (names : List Text) : Prop where
  given : ∀ serviceName port, read serviceName port src = read serviceName port (src.giving (Json.ofTexts names))
  listed : ∀ serviceName port st, read serviceName port src = .ok st → st.allowedGroups = names
  allowed : ∀ serviceName port st, read serviceName port src = .ok st →
    ∀ name, name ∈ st.provider.groupCheck.allowed ↔ name ∈ names

theorem comesTo_of_readGroups (hv : src.value? .allowedGroups = some v) (hr : Settings.readGroups v = .valid names) :
    ComesTo src names := by
  have hlisted : ∀ serviceName port st, read serviceName port src = .ok st → st.allowedGroups = names := by
    intro serviceName port st h
    have hgroups := readGroups_of_read hv h
    rw [hr] at hgroups
    exact (Checked.valid.inj hgroups).symm
  refine ⟨fun _ _ => (read_giving hv hr).symm, hlisted, ?_⟩
  intro serviceName port st h name
  rw [← hlisted serviceName port st h]
  exact List.mem_eraseDups

/-- An allow-list given as one text, by a caller or in the environment. The text of an array, in any spelling and with any
white space around it, comes to its list, with order and repetitions. Names with commas between them come to their list
exactly when none is empty, has white space at an end or holds a comma, and the first does not begin like an array. -/
theorem allow_list_round_trip (names : List String) :
    let texts : List Text := names.map .whole
    (∀ src, src.Says (Json.ofTexts texts) → ComesTo src texts) ∧
    (∀ cs lead trail, Json.ListText names cs → (∀ c ∈ lead, Blank.isBlank c = true) →
      (∀ c ∈ trail, Blank.isBlank c = true) →
        let text := String.ofList (lead ++ (cs ++ trail))
        Settings.readGroups (.str text) = .valid texts ∧ ∀ src, src.Says (.str text) → ComesTo src texts) ∧
    (Settings.readGroups (.str (",".intercalate names)) = .valid texts ↔ AllowList.Joinable names) ∧
    ∀ src, src.Says (.str (",".intercalate names)) →
      (AllowList.Joinable names → ComesTo src texts) ∧
        ∀ serviceName port st, read serviceName port src = .ok st →
          (st.allowedGroups = texts ↔ AllowList.Joinable names) := by
  intro texts
  have hjoined := Settings.readGroups_joined_iff names
  refine ⟨?_, ?_, hjoined, ?_⟩
  · intro src hsays
    exact comesTo_of_readGroups hsays.value? (Settings.readGroups_ofTexts texts)
  · intro cs lead trail hcs hlead htrail
    have hread := Settings.readGroups_listText hcs hlead htrail
    exact ⟨hread, fun src hsays => comesTo_of_readGroups hsays.value? hread⟩
  · intro src hsays
    refine ⟨fun h => comesTo_of_readGroups hsays.value? (hjoined.2 h), fun serviceName port st h => ?_⟩
    have hgroups := readGroups_of_read hsays.value? h
    rw [← hjoined]
    constructor
    · intro hlisted
      exact hgroups.trans (congrArg _ hlisted)
    · intro hr
      rw [hr] at hgroups
      exact (Checked.valid.inj hgroups).symm

/-- A list with commas, a character beyond sixteen bits and a repetition comes through a variable as an array, and cannot
come as names between commas. -/
theorem allow_list_round_trip_of_escapes :
    let names := ["a,b", "😀", "a,b"]
    let texts : List Text := names.map .whole
    let text := "\u00A0[ \x22a\\u002Cb\x22 ,\x22\\uD83D\\ude00\x22,\x22a,b\x22]\n"
    let src : Sources := { environment := [("Sso_Allowed_Groups", text)] }
    let st : ServiceSettings :=
      { environment := "local", logLevel := "info", signOnHost := "localhost:8443", identityHost := "localhost:8090"
        allowedGroups := texts, loginUrl := none, redeemUrl := none, profileUrl := none, validateUrl := none
        scope := "", requestTimeout := ProviderData.tenSeconds, extras := [], serviceName := "sso", port := 8013
        host := "0.0.0.0" }
    read (.str "sso") (.int 8013) src = .ok st ∧ ComesTo src texts ∧ ¬AllowList.Joinable names ∧
      Settings.readGroups (.str (",".intercalate names)) ≠ .valid texts := by
  intro names texts text src st
  have ha : Json.Spelling 'a' ['a'] := .itself (by decide) (by decide) (by decide)
  have hb : Json.Spelling 'b' ['b'] := .itself (by decide) (by decide) (by decide)
  have hcomma : Json.Spelling ',' [','] := .itself (by decide) (by decide) (by decide)
  have hescaped : Json.Spelling ',' "\\u002C".toList := .unit ⟨rfl, by decide⟩
  have hhigh : Json.IsUnit "D83D".toList (0xD800 + ('😀'.toNat - 0x10000) / 0x400) := ⟨rfl, by decide⟩
  have hlow : Json.IsUnit "de00".toList (0xDC00 + ('😀'.toNat - 0x10000) % 0x400) := ⟨rfl, by decide⟩
  have hsmile : Json.Spelling '😀' "\\uD83D\\ude00".toList := .pair (by decide) hhigh hlow
  have hspace : ∀ c ∈ [' '], Json.isGap c = true := List.forall_mem_singleton.2 (by decide)
  have hitems : List.Forall₂ Json.IsItem names
      [" \x22a\\u002Cb\x22 ".toList, "\x22\\uD83D\\ude00\x22".toList, "\x22a,b\x22".toList] :=
    .cons ⟨[' '], "\x22a\\u002Cb\x22".toList, [' '], hspace, ⟨_, .cons ha (.cons hescaped (.cons hb .nil)), rfl⟩, hspace,
        rfl⟩
      (.cons ⟨[], _, [], nofun, ⟨_, .cons hsmile .nil, rfl⟩, nofun, rfl⟩
        (.cons ⟨[], _, [], nofun, ⟨_, .cons ha (.cons hcomma (.cons hb .nil)), rfl⟩, nofun, rfl⟩ .nil))
  obtain ⟨-, harray, hjoined, -⟩ := allow_list_round_trip names
  have hsays : src.Says (.str text) := .inr ⟨by decide +kernel, text, by decide +kernel, rfl⟩
  have hno : ¬AllowList.Joinable names := fun h => h.commaless "a,b" (by simp [names]) (by decide)
  refine ⟨by decide +kernel, ?_, hno, fun hr => hno (hjoined.1 hr)⟩
  exact (harray _ ['\u00A0'] ['\n'] (.items hitems) (List.forall_mem_singleton.2 (by decide))
    (List.forall_mem_singleton.2 (by decide))).2 src hsays

end ServiceSettings

end SignOn
