import SignOn.Settings.Sources
import SignOn.Text.Cut
import SignOn.Json.Reader
import SignOn.Provider.Setup

/-!
Settings, read from their sources. Every setting has a default of its own, save where a service listens, which its
caller tells. An allow-list may be written as one text: names between commas, or an array of the interchange format where
the text opens with a bracket.
-/

namespace SignOn

namespace AllowList

/-- The names between commas, without white space at their ends. Those that are empty do not count. -/
def split (cs : List Char) : List String :=
  (((Text.cut ',' cs).map (Blank.trim Blank.isBlank)).filter (!·.isEmpty)).map String.ofList

/-- The list that a text stands for, its items of any kind. -/
def read (text : String) : Except Json.Fault Json :=
  let cs := Blank.trim Blank.isBlank text.toList
  if cs.head? = some '[' then Json.read cs else .ok (Json.ofTexts ((split cs).map .whole))

/-- No name between commas is empty. -/
theorem ne_empty_of_mem_split {cs : List Char} {name : String} (h : name ∈ split cs) : name ≠ "" := by
  obtain ⟨part, hp, rfl⟩ := List.mem_map.1 h
  have hne := (List.mem_filter.1 hp).2
  intro he
  have : part = [] := by simpa using congrArg String.toList he
  simp [this] at hne

end AllowList

structure Settings where
  environment : String
  logLevel : String
  signOnHost : String
  identityHost : String
  allowedGroups : List Text
  loginUrl : Option String
  redeemUrl : Option String
  profileUrl : Option String
  validateUrl : Option String
  scope : String
  requestTimeout : Binary64
  extras : Json.Members
  deriving DecidableEq

structure ServiceSettings extends Settings where
  serviceName : String
  port : Int
  host : String
  deriving DecidableEq

namespace Settings

/-- An allow-list, as a list of names or as one text. -/
def readGroups : Json → Checked (List Text)
  | .str (.whole text) =>
    match AllowList.read text with
    | .error _ => .refuse .rejected
    | .ok v => Field.texts .notList v
  | .str (.torn ..) => .refuse .unreadableText
  | v => Field.texts .notList v

/-- The words for an allow-list that nests too deep to be read at all. -/
def tooDeep? : Json → Option String
  | .str (.whole text) =>
    match AllowList.read text with
    | .error (.tooDeep object) => some ((Json.Fault.tooDeep object).message text.toList)
    | _ => none
  | _ => none

/-- A setting checked, or its default. -/
def setting {α : Type} (sources : Sources) (s : Setting) (otherwise : α) (check : Json → Checked α) : Checked α :=
  match sources.value? s with
  | none => .valid otherwise
  | some v => (check v).within s.name

def check (sources : Sources) (extras : Json.Members) : Checked Settings :=
  let read {α : Type} (s : Setting) (otherwise : α) (check : Json → Checked α) := setting sources s otherwise check
  (fun environment logLevel signOnHost identityHost allowedGroups loginUrl redeemUrl profileUrl validateUrl scope
      requestTimeout =>
    { environment, logLevel, signOnHost, identityHost, allowedGroups, loginUrl, redeemUrl, profileUrl,
      validateUrl, scope, requestTimeout, extras }) <$>
    read .environment "local" Field.wholeText <*> read .logLevel "info" Field.wholeText <*>
    read .signOnHost "localhost:8443" Field.wholeText <*> read .identityHost "localhost:8090" Field.wholeText <*>
    read .allowedGroups [] readGroups <*> read .loginUrl none Field.optionalWholeText <*>
    read .redeemUrl none Field.optionalWholeText <*> read .profileUrl none Field.optionalWholeText <*>
    read .validateUrl none Field.optionalWholeText <*> read .scope "" Field.wholeText <*>
    read .requestTimeout ProviderData.tenSeconds Field.real

/-- The outcome of a check, unless the allow-list nests too deep to be read. -/
def conclude {α : Type} (sources : Sources) (checked : Checked α) : Except Trouble α :=
  match (sources.value? .allowedGroups).bind tooDeep?, checked with
  | some words, _ => .error (.broken .tooDeep words)
  | none, .valid a => .ok a
  | none, .invalid violations => .error (.invalid violations)

def read (sources : Sources) : Except Trouble Settings :=
  conclude sources (check sources (sources.extras Setting.shared))

def members (s : Settings) : Json.Members :=
  let own : Json.Members :=
    [("env", .str s.environment), ("log_level", .str s.logLevel), ("sso_host", .str s.signOnHost),
      ("identity_host", .str s.identityHost), ("allowed_groups", Json.ofTexts s.allowedGroups),
      ("login_url", Json.ofOption (s.loginUrl.map .whole)), ("redeem_url", Json.ofOption (s.redeemUrl.map .whole)),
      ("profile_url", Json.ofOption (s.profileUrl.map .whole)),
      ("validate_url", Json.ofOption (s.validateUrl.map .whole)),
      ("scope", .str s.scope), ("request_timeout", .real s.requestTimeout)]
  s.extras ++ own

def provider (s : Settings) : Provider :=
  Provider.make s.signOnHost s.identityHost s.allowedGroups
    { loginUrl := s.loginUrl
      redeemUrl := s.redeemUrl
      profileUrl := s.profileUrl
      validateUrl := s.validateUrl
      scope := s.scope
      requestTimeout := s.requestTimeout }

end Settings

namespace ServiceSettings

/-- The names that a service tells by itself, and that can therefore not be given. -/
def ownNames : List Text :=
  ["self", "service_name", "port"]

/-- Reads the settings of a service of a name and a port of any kind. -/
def read (serviceName port : Json) (sources : Sources) : Except Trouble ServiceSettings :=
  if sources.given.any fun m => ownNames.contains m.1 then
    .error (.broken .wrongType "a setting is given twice")
  else
    let ownValues : Json.Members := [("service_name", serviceName), ("port", port)]
    let told := { sources with given := sources.given ++ ownValues }
    Settings.conclude told
      ((fun settings serviceName port host => { settings with serviceName, port, host }) <$>
        Settings.check told (told.extras Setting.ofService) <*>
        (Field.wholeText serviceName).within Setting.serviceName.name <*>
        (Field.int port).within Setting.port.name <*>
        Settings.setting told .host "0.0.0.0" Field.wholeText)

def members (s : ServiceSettings) : Json.Members :=
  let own : Json.Members := [("service_name", .str s.serviceName), ("port", .int s.port), ("host", .str s.host)]
  s.toSettings.members ++ own

end ServiceSettings

end SignOn
