import SignOn.Json.Basic
import SignOn.Settings.EnvFile
import SignOn.Text.Case

/-!
Where settings come from: what a caller gives, the environment, and a file of variables. A setting goes by a plain name
and mostly by a second one that bears the mark of the program. Callers write names exactly; in variables letter case
does not count.
-/

namespace SignOn

/-- What can be set. -/
inductive Setting where
  | environment
  | logLevel
  | signOnHost
  | identityHost
  | allowedGroups
  | loginUrl
  | redeemUrl
  | profileUrl
  | validateUrl
  | scope
  | requestTimeout
  | serviceName
  | port
  | host
  deriving DecidableEq

namespace Setting

def name : Setting → String
  | .environment => "env"
  | .logLevel => "log_level"
  | .signOnHost => "sso_host"
  | .identityHost => "identity_host"
  | .allowedGroups => "allowed_groups"
  | .loginUrl => "login_url"
  | .redeemUrl => "redeem_url"
  | .profileUrl => "profile_url"
  | .validateUrl => "validate_url"
  | .scope => "scope"
  | .requestTimeout => "request_timeout"
  | .serviceName => "service_name"
  | .port => "port"
  | .host => "host"

/-- The name with the mark of the program, in lower case. That of the sign-on host bears it already, and where a service
listens has none. -/
def markedName? : Setting → Option String
  | .signOnHost => some "sso_host"
  | .serviceName | .port | .host => none
  | s => some ("sso_" ++ s.name)

/-- The names that callers use, the plain one first. -/
def keys (s : Setting) : List String :=
  s.name :: (s.markedName?.map fun m => String.ofList (m.toList.map Char.toUpper)).toList

/-- The names of variables, in lower case, the plain one first. -/
def variableNames (s : Setting) : List String :=
  s.name :: s.markedName?.toList

def shared : List Setting :=
  [.environment, .logLevel, .signOnHost, .identityHost, .allowedGroups, .loginUrl, .redeemUrl, .profileUrl,
    .validateUrl, .scope, .requestTimeout]

def ofService : List Setting :=
  shared ++ [.serviceName, .port, .host]

end Setting

/-- The sources of settings, the first to count first. -/
structure Sources where
  given : Json.Members := []
  environment : Table String := []
  file : Table (Option String) := []
  deriving DecidableEq

namespace Sources

/-- The sources of a caller's values, an environment and the text of a file. -/
def ofFileText (given : Json.Members) (environment : Table String) (text : String) : Sources :=
  ⟨given, environment, EnvFile.read environment text⟩

/-- Variables by their names in lower case. -/
def lowered {α : Type} (rows : Table α) : Table α :=
  rows.map fun row => (Case.lower row.1, row.2)

/-- The value of a variable where letter case does not count. Of several the last one counts. -/
def valueOf? {α : Type} (rows : Table α) (name : String) : Option α :=
  (lowered rows).last? name

def given? (s : Sources) (setting : Setting) : Option Json :=
  setting.keys.findSome? fun (key : String) => s.given.get? key

def inEnvironment? (s : Sources) (setting : Setting) : Option String :=
  setting.variableNames.findSome? (valueOf? s.environment)

def inFile? (s : Sources) (setting : Setting) : Option String :=
  setting.variableNames.findSome? fun name => (valueOf? s.file name).join

/-- The value of a setting, from the first source that has one. -/
def value? (s : Sources) (setting : Setting) : Option Json :=
  (s.given? setting).or (((s.inEnvironment? setting).or (s.inFile? setting)).map fun (value : String) => .str value)

/-- Whether a variable of a file belongs to a setting. Whatever begins like the allow-list belongs to it. -/
def belongs (name : String) (setting : Setting) : Bool :=
  setting.variableNames.any fun v =>
    name == v || (setting == .allowedGroups && v.toList.isPrefixOf name.toList)

/-- What stands in the file and is no setting, by lower-case names, unless it is empty. -/
def extrasInFile (s : Sources) (settings : List Setting) : Json.Members :=
  (Table.ofRows (lowered s.file)).filterMap fun
    | (name, some value) =>
      if value = "" ∨ settings.any (belongs name) then none else some (↑name, .str value)
    | (_, none) => none

/-- All that a caller gives or the file holds and is no setting. -/
def extras (s : Sources) (settings : List Setting) : Json.Members :=
  let given := s.given.filter fun m => !settings.any fun setting => setting.keys.any fun key => m.1 == Text.whole key
  given.foldl (fun ms m => ms.put m.1 m.2) (s.extrasInFile settings)

/-- A given value counts before all others. -/
theorem value?_of_given {s : Sources} {setting : Setting} {v : Json} (h : s.given? setting = some v) :
    s.value? setting = some v := by
  simp [value?, h]

/-- The environment counts where nothing is given. -/
theorem value?_of_environment {s : Sources} {setting : Setting} {v : String} (h : s.given? setting = none)
    (k : s.inEnvironment? setting = some v) : s.value? setting = some (.str v) := by
  simp [value?, h, k]

end Sources

end SignOn
