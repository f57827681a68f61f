import SignOn.Session
import SignOn.Shape.Field

/-!
Sessions as they travel between a gateway and its users.
-/

namespace SignOn

/-- The wire form of a session. -/
structure SessionPayload where
  accessToken : Text
  refreshToken : Text
  email : Text
  user : Text
  expiresOn : Option Moment
  deriving DecidableEq

namespace SessionPayload

def ofMembers (ms : Json.Members) : Checked SessionPayload :=
  SessionPayload.mk <$> Field.optional ms "access_token" "" Field.text <*>
    Field.optional ms "refresh_token" "" Field.text <*> Field.optional ms "email" "" Field.text <*>
    Field.optional ms "user" "" Field.text <*> Field.optional ms "expires_on" none Field.optionalMoment

def session (p : SessionPayload) : Session :=
  ⟨p.accessToken, p.refreshToken, p.email, p.user, p.expiresOn⟩

def ofSession (s : Session) : SessionPayload :=
  ⟨s.accessToken, s.refreshToken, s.email, s.user, s.expiresOn⟩

/-- The members, with the expiry in a given form. -/
def membersWith (write : Moment → String) (p : SessionPayload) : Json.Members :=
  [("access_token", .str p.accessToken), ("refresh_token", .str p.refreshToken), ("email", .str p.email),
    ("user", .str p.user), ("expires_on", Json.ofOption (p.expiresOn.map fun m => ↑(write m)))]

def members (p : SessionPayload) : Json.Members :=
  p.membersWith Moment.wire

@[simp] theorem ofSession_session (p : SessionPayload) : ofSession p.session = p := rfl

@[simp] theorem session_ofSession (s : Session) : (ofSession s).session = s := rfl

end SessionPayload

/-- The members of a session, with the expiry in its full form. -/
def Session.members (s : Session) : Json.Members :=
  (SessionPayload.ofSession s).membersWith Moment.iso

end SignOn
