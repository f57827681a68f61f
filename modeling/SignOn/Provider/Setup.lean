import SignOn.Provider.Basic
import SignOn.Json.Display

/-!
Setting up a provider from two hosts, an allow-list and what is set explicitly. Every address that is not set follows from
the hosts.
-/

namespace SignOn.Provider

def name : String := "Criteo"

/-- The attributes that are asked for unless others are set. -/
def defaultScope : String := "cn mail uid dn umsId"

/-- The address of a path at the sign-on host. -/
def signOnUrl (host path : String) : String :=
  "https://" ++ host ++ path ++ "?realm=" ++ Realm.name

def directoryUrl (host : String) : String :=
  "http://" ++ host ++ "/user/"

/-- A set text, unless it is empty. -/
def setOr (set : Option String) (otherwise : String) : String :=
  match set with
  | none | some "" => otherwise
  | some s => s

/-- What can be set explicitly. -/
structure Options where
  loginUrl : Option String := none
  redeemUrl : Option String := none
  profileUrl : Option String := none
  validateUrl : Option String := none
  scope : String := ""
  requestTimeout : Binary64 := ProviderData.tenSeconds
  deriving DecidableEq

/-- The provider of two hosts, an allow-list and options. -/
def make (signOnHost identityHost : String) (groups : List Text) (options : Options) : Provider :=
  let profileUrl := setOr options.profileUrl (signOnUrl signOnHost "/auth/oauth2/tokeninfo")
  { data :=
    { providerName := name
      loginUrl := setOr options.loginUrl (signOnUrl signOnHost "/auth/oauth2/authorize")
      redeemUrl := setOr options.redeemUrl (signOnUrl signOnHost "/auth/oauth2/access_token")
      profileUrl
      validateUrl := setOr options.validateUrl profileUrl
      identityUrl := directoryUrl identityHost
      scope := setOr (some options.scope) defaultScope
      allowedGroups := groups.eraseDups
      requestTimeout := options.requestTimeout } }

/-- The members of an allow-list of any kind: the items of a list, the characters of a text, the names in an object. Other
values have none, and neither have lists of lists and objects. -/
def groupItems? : Json → Option (List Json)
  | .arr items =>
    let plain : Json → Bool
      | .arr _ | .obj _ => false
      | _ => true
    if items.all plain then some items else none
  | .str s => some (s.symbols.map fun symbol => .str (.ofSymbols [symbol]))
  | .obj members => some (members.map fun m => .str m.1)
  | _ => none

def optionNames : List Text :=
  ["login_url", "redeem_url", "profile_url", "validate_url", "scope", "request_timeout"]

/-- The address that a host of any kind makes. A torn text makes none, and is left to the checks. -/
def addressAt (host : Json) (address : String → String) : Json :=
  match host.display with
  | .whole host => .str (address host)
  | .torn front half back => .str (.torn front half back)

/-- The provider of values of any kind. -/
def configure (signOnHost identityHost groups : Json) (named : Json.Members) : Except Trouble Provider :=
  if named.all fun m => optionNames.contains m.1 then
    match groupItems? groups with
    | none => .error (.broken .wrongType "the allow-list is no list of names")
    | some items =>
      let set (name : String) (otherwise : Json) : Json :=
        match named.get? name with
        | some v => if v.isBlank then otherwise else v
        | none => otherwise
      let signOn (path : String) : Json := addressAt signOnHost (signOnUrl · path)
      let profileUrl := set "profile_url" (signOn "/auth/oauth2/tokeninfo")
      let timeout := (named.get? "request_timeout").getD (.real ProviderData.tenSeconds)
      match
        ProviderData.ofMembers
          [ ("provider_name", .str name),
            ("login_url", set "login_url" (signOn "/auth/oauth2/authorize")),
            ("redeem_url", set "redeem_url" (signOn "/auth/oauth2/access_token")),
            ("profile_url", profileUrl),
            ("validate_url", set "validate_url" profileUrl),
            ("identity_url", addressAt identityHost directoryUrl),
            ("scope", set "scope" (.str defaultScope)),
            ("allowed_groups", .arr items.eraseDups),
            ("request_timeout", timeout) ] with
      | .valid data => .ok ⟨data⟩
      | .invalid violations => .error (.invalid violations)
  else .error (.broken .wrongType "unknown option")

end SignOn.Provider
