import SignOn.Shape.Field

/-!
What a provider is set up with. It is fixed once the provider stands.
-/

namespace SignOn

/-- Addresses, allow-list and timeout of a provider. -/
structure ProviderData where
  providerName : String
  loginUrl : String
  redeemUrl : String
  profileUrl : String
  validateUrl : String
  identityUrl : String
  scope : String
  /-- the allowed groups, each once -/
  allowedGroups : List Text
  requestTimeout : Binary64
  deriving DecidableEq

namespace ProviderData

def tenSeconds : Binary64 := Binary64.ofInt 10

def ofMembers (ms : Json.Members) : Checked ProviderData :=
  ProviderData.mk <$> Field.optional ms "provider_name" "" Field.wholeText <*>
    Field.optional ms "login_url" "" Field.wholeText <*> Field.optional ms "redeem_url" "" Field.wholeText <*>
    Field.optional ms "profile_url" "" Field.wholeText <*> Field.optional ms "validate_url" "" Field.wholeText <*>
    Field.optional ms "identity_url" "" Field.wholeText <*> Field.optional ms "scope" "" Field.wholeText <*>
    Field.optional ms "allowed_groups" [] (fun v => List.eraseDups <$> Field.texts .notSet v) <*>
    Field.optional ms "request_timeout" tenSeconds Field.real

def members (d : ProviderData) : Json.Members :=
  [("provider_name", .str d.providerName), ("login_url", .str d.loginUrl), ("redeem_url", .str d.redeemUrl),
    ("profile_url", .str d.profileUrl), ("validate_url", .str d.validateUrl),
    ("identity_url", .str d.identityUrl), ("scope", .str d.scope),
    ("allowed_groups", Json.ofTexts d.allowedGroups), ("request_timeout", .real d.requestTimeout)]

end ProviderData

end SignOn
