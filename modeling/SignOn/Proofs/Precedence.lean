import SignOn.Proofs.FieldValues
import SignOn.Proofs.Surroundings

/-!
Which value of a setting counts. What a caller gives comes first, then the environment, then the file; within the two
latter the plain name comes before the marked one, in whichever letter case. Settings can be read just when the values that
count pass their checks, and then they are these values.
-/

namespace SignOn

/-- Where a value of a setting may stand. -/
inductive Rank where
  | given
  | plainVariable
  | markedVariable
  | plainLine
  | markedLine
  deriving DecidableEq

/-- The ranks, the first to count first. -/
def Rank.order : List Rank :=
  [.given, .plainVariable, .markedVariable, .plainLine, .markedLine]

/-- Whether a table writes a value under a name, in whichever letter case. -/
def Writes {α : Type} (rows : Table α) (name : String) (value : α) : Prop :=
  ∃ written, (written, value) ∈ rows ∧ Case.lower written = name

namespace Sources

/-- Whether callers use no marked names, and neither environment nor file writes a name in two letter cases. -/
structure Distinct (src : Sources) : Prop where
  given : ∀ m ∈ src.given, ∀ s : Setting, ∀ key ∈ s.keys, m.1 = key → key = s.name
  environment : (src.environment.map fun row => Case.lower row.1).Nodup
  file : (src.file.map fun row => Case.lower row.1).Nodup

/-- What a setting is said to be at a rank. -/
def Holds (src : Sources) (s : Setting) : Rank → Json → Prop
  | .given, v => Table.get? src.given s.name = some v
  | .plainVariable, v => ∃ text, Writes src.environment s.name text ∧ .str text = v
  | .markedVariable, v =>
    ∃ marked, s.markedName? = some marked ∧ ∃ text, Writes src.environment marked text ∧ .str text = v
  | .plainLine, v => ∃ text, Writes src.file s.name (some text) ∧ .str text = v
  | .markedLine, v =>
    ∃ marked, s.markedName? = some marked ∧ ∃ text, Writes src.file marked (some text) ∧ .str text = v

/-- The value of a setting that counts: one that is said at a rank before which nothing is said, or none. -/
inductive Counts (src : Sources) (s : Setting) : Option Json → Prop
  | ranked {before after : List Rank} {r : Rank} {v : Json} (horder : Rank.order = before ++ r :: after)
      (h : src.Holds s r v) (hbefore : ∀ r' ∈ before, ∀ v', ¬src.Holds s r' v') : Counts src s (some v)
  | silent (h : ∀ r v, ¬src.Holds s r v) : Counts src s none

/-- The value that is said at a rank. -/
def said (src : Sources) (s : Setting) : Rank → Option Json
  | .given => Table.get? src.given s.name
  | .plainVariable => (valueOf? src.environment s.name).map fun (text : String) => .str text
  | .markedVariable => s.markedName?.bind fun marked => (valueOf? src.environment marked).map fun (text : String) => .str text
  | .plainLine => (valueOf? src.file s.name).join.map fun (text : String) => .str text
  | .markedLine => s.markedName?.bind fun marked => (valueOf? src.file marked).join.map fun (text : String) => .str text

variable {src : Sources}

theorem valueOf?_eq_some_iff {α : Type} {rows : Table α} (h : (rows.map fun row => Case.lower row.1).Nodup)
    (name : String) (value : α) : valueOf? rows name = some value ↔ Writes rows name value := by
  have hnames : ((lowered rows).map (·.1)).Nodup := by
    rw [lowered, List.map_map]
    exact h
  rw [valueOf?, Table.last?_eq_some_iff hnames]
  constructor
  · intro hmem
    obtain ⟨row, hrow, heq⟩ := List.mem_map.1 hmem
    cases heq
    exact ⟨row.1, hrow, rfl⟩
  · rintro ⟨written, hrow, rfl⟩
    exact List.mem_map.2 ⟨_, hrow, rfl⟩

theorem holds_iff (h : src.Distinct) (s : Setting) (r : Rank) (v : Json) :
    src.Holds s r v ↔ src.said s r = some v := by
  have hline : ∀ name text, (valueOf? src.file name).join = some text ↔ Writes src.file name (some text) := by
    intro name text
    rw [Option.join_eq_some_iff, valueOf?_eq_some_iff h.file]
  cases r with
  | given => exact Iff.rfl
  | plainVariable => simp only [Holds, said, Option.map_eq_some_iff, valueOf?_eq_some_iff h.environment]
  | markedVariable =>
    simp only [Holds, said, Option.bind_eq_some_iff, Option.map_eq_some_iff, valueOf?_eq_some_iff h.environment]
  | plainLine => simp only [Holds, said, Option.map_eq_some_iff, hline]
  | markedLine => simp only [Holds, said, Option.bind_eq_some_iff, Option.map_eq_some_iff, hline]

theorem findSome?_cons_eq_or {α β : Type} (f : α → Option β) (a : α) (as : List α) :
    (a :: as).findSome? f = (f a).or (as.findSome? f) := by
  rw [List.findSome?_cons]
  cases f a with
  | none => rfl
  | some b => rfl

theorem findSome?_congr {α β : Type} {f g : α → Option β} {as : List α} (h : ∀ a ∈ as, f a = g a) :
    as.findSome? f = as.findSome? g := by
  induction as with
  | nil => rfl
  | cons a as ih =>
    rw [findSome?_cons_eq_or, findSome?_cons_eq_or, h a List.mem_cons_self,
      ih fun a ha => h a (List.mem_cons_of_mem _ ha)]

theorem findSome?_variableNames {α : Type} (s : Setting) (f : String → Option α) :
    s.variableNames.findSome? f = (f s.name).or (s.markedName?.bind f) := by
  rw [Setting.variableNames, findSome?_cons_eq_or]
  cases s.markedName? with
  | none => rfl
  | some marked => simp

/-- Callers who use no marked names are heard under the plain one. -/
theorem given?_eq (h : src.Distinct) (s : Setting) : src.given? s = Table.get? src.given s.name := by
  rw [given?, Setting.keys, List.findSome?_cons]
  cases hplain : Table.get? src.given s.name with
  | some v => rfl
  | none =>
    refine List.findSome?_eq_none_iff.2 fun key hkey => ?_
    cases hv : Table.get? src.given key with
    | none => rfl
    | some v =>
      have hname : key = s.name := h.given _ (Table.mem_of_get? hv) s key (List.mem_cons_of_mem _ hkey) rfl
      rw [hname, hplain] at hv
      cases hv

/-- The value of a setting is what is said first. -/
theorem value?_eq_findSome? (h : src.Distinct) (s : Setting) : src.value? s = Rank.order.findSome? (src.said s) := by
  have hvariable : ((src.inEnvironment? s).map fun (value : String) => Json.str value) = (src.said s .plainVariable).or (src.said s .markedVariable) := by
    rw [inEnvironment?, findSome?_variableNames, Option.map_or, Option.map_bind]
    rfl
  have hline : ((src.inFile? s).map fun (value : String) => Json.str value) = (src.said s .plainLine).or (src.said s .markedLine) := by
    rw [inFile?, findSome?_variableNames, Option.map_or, Option.map_bind]
    rfl
  have hgiven : src.given? s = src.said s .given := given?_eq h s
  rw [value?, Option.map_or, hvariable, hline, hgiven, Option.or_assoc]
  simp only [Rank.order, findSome?_cons_eq_or, List.findSome?_nil, Option.or_none]

/-- The value of a setting is the one that counts. -/
theorem counts_iff (h : src.Distinct) (s : Setting) (o : Option Json) : Counts src s o ↔ src.value? s = o := by
  have hsilent : ∀ r, (∀ v, ¬src.Holds s r v) ↔ src.said s r = none := by
    intro r
    rw [Option.eq_none_iff_forall_ne_some]
    exact forall_congr' fun v => not_congr (holds_iff h s r v)
  have hall : ∀ r, r ∈ Rank.order := by
    intro r
    cases r <;> decide
  rw [value?_eq_findSome? h]
  constructor
  · intro hcounts
    cases hcounts with
    | ranked horder hholds hbefore =>
      refine List.findSome?_eq_some_iff.2 ⟨_, _, _, horder, (holds_iff h s _ _).1 hholds, ?_⟩
      exact fun r' hr' => (hsilent r').1 (hbefore r' hr')
    | silent hnone => exact List.findSome?_eq_none_iff.2 fun r _ => (hsilent r).1 (hnone r)
  · rintro rfl
    cases hvalue : Rank.order.findSome? (src.said s) with
    | none => exact .silent fun r => (hsilent r).2 (List.findSome?_eq_none_iff.1 hvalue r (hall r))
    | some v =>
      obtain ⟨before, r, after, horder, hsaid, hbefore⟩ := List.findSome?_eq_some_iff.1 hvalue
      exact .ranked horder ((holds_iff h s r v).2 hsaid) fun r' hr' => (hsilent r').2 (hbefore r' hr')

/-- What is written in the environment, no file overrides. -/
theorem counts_file_iff (h : src.Distinct) {s : Setting} {name text : String} (hname : name ∈ s.variableNames)
    (hwrites : Writes src.environment name text) {file : Table (Option String)}
    (hfile : (file.map fun row => Case.lower row.1).Nodup) (o : Option Json) :
    Counts { src with file } s o ↔ Counts src s o := by
  have hfound : (src.inEnvironment? s).isSome := by
    rw [inEnvironment?, List.findSome?_isSome_iff]
    exact ⟨name, hname, Option.isSome_iff_exists.2 ⟨text, (valueOf?_eq_some_iff h.environment ..).2 hwrites⟩⟩
  obtain ⟨found, hfound⟩ := Option.isSome_iff_exists.1 hfound
  have hother : Distinct { src with file } := ⟨h.given, h.environment, hfile⟩
  have hinEnvironment : ({ src with file } : Sources).inEnvironment? s = some found := hfound
  have hgiven : ({ src with file } : Sources).given? s = src.given? s := rfl
  rw [counts_iff hother, counts_iff h, value?, value?, hfound, hinEnvironment, hgiven]
  rfl

/-- What a setting comes to: what the value that counts means, or else its default. -/
def Resolves {α : Type} (src : Sources) (s : Setting) (otherwise : α) (means : Json → α → Prop) (a : α) : Prop :=
  ∃ o, Counts src s o ∧ o.elim (otherwise = a) (means · a)

theorem setting_eq_valid_iff {α : Type} (h : src.Distinct) (s : Setting) (otherwise : α) {check : Json → Checked α}
    {means : Json → α → Prop} (hmeans : ∀ v a, check v = .valid a ↔ means v a) (a : α) :
    Settings.setting src s otherwise check = .valid a ↔ src.Resolves s otherwise means a := by
  have hsetting : Settings.setting src s otherwise check = .valid a ↔
      (src.value? s).elim (otherwise = a) (means · a) := by
    unfold Settings.setting
    cases src.value? s with
    | none => simp
    | some v => simp [hmeans]
  rw [hsetting]
  constructor
  · exact fun hvalue => ⟨_, (counts_iff h s _).2 rfl, hvalue⟩
  · rintro ⟨o, hcounts, hvalue⟩
    rwa [(counts_iff h s o).1 hcounts]

/-- The sources of a service, which tells its name and port by itself. -/
def told (src : Sources) (serviceName port : Json) : Sources :=
  let own : Json.Members := [("service_name", serviceName), ("port", port)]
  { src with given := src.given ++ own }

/-- What a service tells by itself touches no other setting. -/
theorem value?_told (serviceName port : Json) {s : Setting} (h : s ≠ .serviceName) (h' : s ≠ .port) :
    (src.told serviceName port).value? s = src.value? s := by
  have hkeys : ∀ key ∈ s.keys, "service_name" ≠ key ∧ "port" ≠ key := by
    cases s with
    | serviceName => exact absurd rfl h
    | port => exact absurd rfl h'
    | _ => decide
  have hgiven : (src.told serviceName port).given? s = src.given? s := by
    refine findSome?_congr fun key hkey => ?_
    obtain ⟨hname, hport⟩ := hkeys key hkey
    simp [told, Table.get?_append, Table.get?_cons, hname, hport]
  rw [value?, value?, hgiven]
  rfl

theorem setting_told {α : Type} (serviceName port : Json) {s : Setting} (h : s ≠ .serviceName) (h' : s ≠ .port)
    (otherwise : α) (check : Json → Checked α) :
    Settings.setting (src.told serviceName port) s otherwise check = Settings.setting src s otherwise check := by
  rw [Settings.setting, value?_told serviceName port h h']
  rfl

theorem check_told (serviceName port : Json) (extras : Json.Members) :
    Settings.check (src.told serviceName port) extras = Settings.check src extras := by
  simp (disch := decide) only [Settings.check, setting_told]

end Sources

namespace Settings

/-- Whether settings are what their sources say. -/
structure Resolved (src : Sources) (st : Settings) : Prop where
  environment : src.Resolves .environment "local" Json.SaysText st.environment
  logLevel : src.Resolves .logLevel "info" Json.SaysText st.logLevel
  signOnHost : src.Resolves .signOnHost "localhost:8443" Json.SaysText st.signOnHost
  identityHost : src.Resolves .identityHost "localhost:8090" Json.SaysText st.identityHost
  allowedGroups : src.Resolves .allowedGroups [] Json.SaysNames st.allowedGroups
  loginUrl : src.Resolves .loginUrl none Json.SaysOptionalText st.loginUrl
  redeemUrl : src.Resolves .redeemUrl none Json.SaysOptionalText st.redeemUrl
  profileUrl : src.Resolves .profileUrl none Json.SaysOptionalText st.profileUrl
  validateUrl : src.Resolves .validateUrl none Json.SaysOptionalText st.validateUrl
  scope : src.Resolves .scope "" Json.SaysText st.scope
  requestTimeout : src.Resolves .requestTimeout ProviderData.tenSeconds Json.SaysReal st.requestTimeout

/-- A check succeeds when it does so for each setting by itself. -/
theorem check_eq_valid_iff_settings (src : Sources) (extras : Json.Members) (st : Settings) :
    check src extras = .valid st ↔ st.extras = extras ∧
      setting src .environment "local" Field.wholeText = .valid st.environment ∧
      setting src .logLevel "info" Field.wholeText = .valid st.logLevel ∧
      setting src .signOnHost "localhost:8443" Field.wholeText = .valid st.signOnHost ∧
      setting src .identityHost "localhost:8090" Field.wholeText = .valid st.identityHost ∧
      setting src .allowedGroups [] readGroups = .valid st.allowedGroups ∧
      setting src .loginUrl none Field.optionalWholeText = .valid st.loginUrl ∧
      setting src .redeemUrl none Field.optionalWholeText = .valid st.redeemUrl ∧
      setting src .profileUrl none Field.optionalWholeText = .valid st.profileUrl ∧
      setting src .validateUrl none Field.optionalWholeText = .valid st.validateUrl ∧
      setting src .scope "" Field.wholeText = .valid st.scope ∧
      setting src .requestTimeout ProviderData.tenSeconds Field.real = .valid st.requestTimeout := by
  simp only [check, Checked.seq_eq_valid_iff, Checked.map_eq_valid_iff]
  constructor
  · intro hcheck
    obtain ⟨_, requestTimeout, ⟨_, scope, ⟨_, validateUrl, ⟨_, profileUrl, ⟨_, redeemUrl, ⟨_, loginUrl,
      ⟨_, allowedGroups, ⟨_, identityHost, ⟨_, signOnHost, ⟨_, logLevel, ⟨environment, h1, rfl⟩, h2, rfl⟩, h3, rfl⟩,
      h4, rfl⟩, h5, rfl⟩, h6, rfl⟩, h7, rfl⟩, h8, rfl⟩, h9, rfl⟩, h10, rfl⟩, h11, rfl⟩ := hcheck
    exact ⟨rfl, h1, h2, h3, h4, h5, h6, h7, h8, h9, h10, h11⟩
  · rintro ⟨rfl, h1, h2, h3, h4, h5, h6, h7, h8, h9, h10, h11⟩
    exact ⟨_, _, ⟨_, _, ⟨_, _, ⟨_, _, ⟨_, _, ⟨_, _, ⟨_, _, ⟨_, _, ⟨_, _, ⟨_, _, ⟨_, h1, rfl⟩, h2, rfl⟩, h3, rfl⟩,
      h4, rfl⟩, h5, rfl⟩, h6, rfl⟩, h7, rfl⟩, h8, rfl⟩, h9, rfl⟩, h10, rfl⟩, h11, rfl⟩

/-- A check succeeds with settings just when they are what their sources say. -/
theorem check_eq_valid_iff {src : Sources} (h : src.Distinct) (extras : Json.Members) (st : Settings) :
    check src extras = .valid st ↔ st.extras = extras ∧ st.Resolved src := by
  simp only [check_eq_valid_iff_settings, Sources.setting_eq_valid_iff h _ _ Field.wholeText_eq_valid_iff,
    Sources.setting_eq_valid_iff h _ _ Field.optionalWholeText_eq_valid_iff,
    Sources.setting_eq_valid_iff h _ _ readGroups_eq_valid_iff, Sources.setting_eq_valid_iff h _ _ Field.real_eq_valid_iff]
  constructor
  · rintro ⟨hextras, h1, h2, h3, h4, h5, h6, h7, h8, h9, h10, h11⟩
    exact ⟨hextras, h1, h2, h3, h4, h5, h6, h7, h8, h9, h10, h11⟩
  · rintro ⟨hextras, h1, h2, h3, h4, h5, h6, h7, h8, h9, h10, h11⟩
    exact ⟨hextras, h1, h2, h3, h4, h5, h6, h7, h8, h9, h10, h11⟩

theorem tooDeep?_of_valid {v : Json} {groups : List Text} (h : readGroups v = .valid groups) : tooDeep? v = none := by
  cases v with
  | str text =>
    cases text with
    | torn => rfl
    | whole text =>
      unfold readGroups at h
      unfold tooDeep?
      cases hread : AllowList.read text with
      | error fault =>
        simp only [hread] at h
        cases h
      | ok v => simp only [hread]
  | _ => rfl

theorem conclude_eq_ok_iff {α : Type} (src : Sources) (checked : Checked α) (a : α) :
    conclude src checked = .ok a ↔ (src.value? .allowedGroups).bind tooDeep? = none ∧ checked = .valid a := by
  unfold conclude
  cases (src.value? .allowedGroups).bind tooDeep? with
  | some words => simp
  | none => cases checked <;> simp

end Settings

namespace ServiceSettings

/-- Whether the settings of a service are what it tells and its sources say. -/
structure Resolved (src : Sources) (serviceName port : Json) (st : ServiceSettings) : Prop extends
    st.toSettings.Resolved src where
  serviceName : serviceName.SaysText st.serviceName
  port : port.SaysInt st.port
  host : src.Resolves .host "0.0.0.0" Json.SaysText st.host

/-- What a service tells by itself is checked beside what its sources say. -/
theorem read_eq_ok_iff (src : Sources) (serviceName port : Json) (st : ServiceSettings) :
    read serviceName port src = .ok st ↔
      (src.given.any fun m => ownNames.contains m.1) = false ∧ (src.value? .allowedGroups).bind Settings.tooDeep? = none ∧
        Settings.check src ((src.told serviceName port).extras Setting.ofService) = .valid st.toSettings ∧
        Field.wholeText serviceName = .valid st.serviceName ∧ Field.int port = .valid st.port ∧
        Settings.setting src .host "0.0.0.0" Field.wholeText = .valid st.host := by
  cases hgiven : src.given.any fun m => ownNames.contains m.1 with
  | true =>
    have hread : read serviceName port src = .error (.broken .wrongType "a setting is given twice") := by
      rw [read, hgiven]
      rfl
    simp [hread]
  | false =>
    have htold : ({ src with given := src.given ++ ([("service_name", serviceName), ("port", port)] : Json.Members) } :
        Sources) = src.told serviceName port := rfl
    have hvalue : (src.told serviceName port).value? .allowedGroups = src.value? .allowedGroups :=
      Sources.value?_told serviceName port (by decide) (by decide)
    have hhost : Settings.setting (src.told serviceName port) .host "0.0.0.0" Field.wholeText =
        Settings.setting src .host "0.0.0.0" Field.wholeText := Sources.setting_told serviceName port (by decide) (by decide) ..
    rw [read, hgiven]
    simp only [htold, Settings.conclude_eq_ok_iff, hvalue, Checked.seq_eq_valid_iff, Checked.map_eq_valid_iff,
      Checked.within_eq_valid_iff, Sources.check_told, hhost, Bool.false_eq_true, ↓reduceIte]
    constructor
    · rintro ⟨hdeep, _, host, ⟨_, port, ⟨_, name, ⟨settings, hcheck, rfl⟩, hname, rfl⟩, hport, rfl⟩, hhost, rfl⟩
      exact ⟨trivial, hdeep, hcheck, hname, hport, hhost⟩
    · rintro ⟨-, hdeep, hcheck, hname, hport, hhost⟩
      exact ⟨hdeep, _, _, ⟨_, _, ⟨_, _, ⟨_, hcheck, rfl⟩, hname, rfl⟩, hport, rfl⟩, hhost, rfl⟩

/-- An allow-list that is resolved does not nest too deep. -/
theorem Resolved.shallow {src : Sources} (h : src.Distinct) {serviceName port : Json} {st : ServiceSettings}
    (hst : st.Resolved src serviceName port) : (src.value? .allowedGroups).bind Settings.tooDeep? = none := by
  obtain ⟨o, hcounts, hgroups⟩ := hst.allowedGroups
  rw [(Sources.counts_iff h _ _).1 hcounts]
  cases o with
  | none => rfl
  | some v => exact Settings.tooDeep?_of_valid ((Settings.readGroups_eq_valid_iff v _).2 hgroups)

theorem Resolved.withExtras {src : Sources} {serviceName port : Json} {st : ServiceSettings}
    (hst : st.Resolved src serviceName port) (extras : Json.Members) :
    Resolved src serviceName port { st with extras } := by
  obtain ⟨⟨h1, h2, h3, h4, h5, h6, h7, h8, h9, h10, h11⟩, hname, hport, hhost⟩ := hst
  exact ⟨⟨h1, h2, h3, h4, h5, h6, h7, h8, h9, h10, h11⟩, hname, hport, hhost⟩

/-- Settings are read by precedence. Reading succeeds just when nobody else tells what the service tells by itself and all
values that count are valid; then the settings are these values. No file overrides what the environment holds under either
name. -/
theorem read_by_precedence {src : Sources} (h : src.Distinct) (serviceName port : Json) :
    (∀ st : ServiceSettings, (∃ extras, read serviceName port src = .ok { st with extras }) ↔
      (∀ m ∈ src.given, m.1 ∉ ownNames) ∧ st.Resolved src serviceName port) ∧
    ∀ (s : Setting), ∀ name ∈ s.variableNames, ∀ text, Writes src.environment name text →
      ∀ file : Table (Option String), (file.map fun row => Case.lower row.1).Nodup →
        ∀ o, Sources.Counts { src with file } s o ↔ src.Counts s o := by
  refine ⟨fun st => ?_, fun s name hname text hwrites file hfile => Sources.counts_file_iff h hname hwrites hfile⟩
  have hown : (src.given.any fun m => ownNames.contains m.1) = false ↔ ∀ m ∈ src.given, m.1 ∉ ownNames := by simp
  constructor
  · rintro ⟨extras, hread⟩
    obtain ⟨hgiven, -, hcheck, hname, hport, hhost⟩ := (read_eq_ok_iff src serviceName port _).1 hread
    have hst : Resolved src serviceName port { st with extras } :=
      ⟨((Settings.check_eq_valid_iff h _ _).1 hcheck).2, (Field.wholeText_eq_valid_iff ..).1 hname,
        (Field.int_eq_valid_iff ..).1 hport, (Sources.setting_eq_valid_iff h _ _ Field.wholeText_eq_valid_iff _).1 hhost⟩
    exact ⟨hown.1 hgiven, hst.withExtras st.extras⟩
  · rintro ⟨hgiven, hst⟩
    let extras := (src.told serviceName port).extras Setting.ofService
    have hst' := hst.withExtras extras
    refine ⟨extras, (read_eq_ok_iff src serviceName port _).2 ⟨hown.2 hgiven, hst.shallow h, ?_⟩⟩
    exact ⟨(Settings.check_eq_valid_iff h _ _).2 ⟨rfl, hst'.toResolved⟩, (Field.wholeText_eq_valid_iff ..).2 hst.serviceName,
      (Field.int_eq_valid_iff ..).2 hst.port, (Sources.setting_eq_valid_iff h _ _ Field.wholeText_eq_valid_iff _).2 hst.host⟩

/-- A level that is given, an empty scope in the environment under its marked name, which the file has under its plain one,
and in the environment also the text of a number and an address. -/
theorem read_by_precedence_of_layers :
    let src : Sources :=
      { given := [("log_level", .str "debug"), ("nickname", .int 1)]
        environment := [("Sso_Scope", ""), ("SSO_ENV", "dev"), ("LOG_LEVEL", "error"), ("PATH", "/bin"),
          ("sso_Request_Timeout", " 2.50"), ("LOGIN_URL", "http://l.test/"), ("SSO_ALLOWED_GROUPS", "eng, ops,")]
        file := [("scope", some "mail"), ("ENV", some "prod"), ("sso_identity_host", some "id.test"), ("junk", some "x")] }
    let st : ServiceSettings :=
      { environment := "dev", logLevel := "debug", signOnHost := "localhost:8443", identityHost := "id.test"
        allowedGroups := ["eng", "ops"], loginUrl := some "http://l.test/", redeemUrl := none, profileUrl := none
        validateUrl := none, scope := "", requestTimeout := Binary64.ofDecimal false 25 (-1)
        extras := [("junk", .str "x"), ("nickname", .int 1)], serviceName := "sso", port := 8013, host := "0.0.0.0" }
    src.Distinct ∧ read (.str "sso") (.int 8013) src = .ok st ∧ st.Resolved src (.str "sso") (.int 8013) ∧
      ∀ o, Sources.Counts { src with file := [] } .scope o ↔ src.Counts .scope o := by
  intro src st
  have hdistinct : src.Distinct := by
    refine ⟨fun m hm s key hkey hname => ?_, by decide +kernel, by decide +kernel⟩
    have hnames : (key : Text) ∈ (["log_level", "nickname"] : List Text) := hname ▸ List.mem_map_of_mem hm
    clear hname
    revert key
    cases s <;> decide
  have hread : read (.str "sso") (.int 8013) src = .ok st := by decide +kernel
  obtain ⟨hresolved, hfile⟩ := read_by_precedence hdistinct (.str "sso") (.int 8013)
  refine ⟨hdistinct, hread, ((hresolved st).1 ⟨st.extras, hread⟩).2, ?_⟩
  exact hfile .scope "sso_scope" (by decide) "" ⟨"Sso_Scope", by decide, by decide +kernel⟩ [] .nil

end ServiceSettings

end SignOn
