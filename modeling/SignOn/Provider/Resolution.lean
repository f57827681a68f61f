import SignOn.Exchange
import SignOn.Session

/-!
Resolving a session: the realm is asked whom the access token belongs to, and the answer is written into the session,
once.
-/

namespace SignOn

/-- A session after an operation, and what came of it. -/
structure Outcome (α : Type) where
  session : Session
  result : Except Trouble α

/-- The same session, with another result. -/
def Outcome.map {α β : Type} (f : Session → Except Trouble α → Except Trouble β) (o : Outcome α) : Outcome β :=
  ⟨o.session, f o.session o.result⟩

/-- Where tokens are looked up. -/
structure Resolver where
  profileUrl : String
  timeout : Binary64
  deriving DecidableEq

namespace Resolver

def logger : String := "sso.profile"

def request (r : Resolver) (token : Text) : Except Trouble Request := do
  let url ← (Url.read r.profileUrl).mapError .ofUrlFault
  Request.make "GET" url (bearerHeaders token)

/-- Writes what was told of the token into the session. Without an email the resolution fails, but stays written. -/
def accept (s : Session) (info : TokenInfo) : Effect (Outcome Unit) :=
  let s : Session := { s with email := info.email, user := info.user }
  if s.email = "" then do
    Site.note .warning logger "Token info without email" [("user", .str info.user)]
    return ⟨s, .error (.failure (.profileIncomplete info.user))⟩
  else do
    Site.note .debug logger "Profile resolved" [("email", .str s.email), ("user", .str s.user)]
    return ⟨s, .ok ()⟩

/-- Fills in email and user key of a session that lacks one of them. -/
def resolve (r : Resolver) (s : Session) (timeout : Option Binary64) : Effect (Outcome Unit) :=
  if s.isResolved then pure ⟨s, .ok ()⟩
  else if s.accessToken = "" then pure ⟨s, .error (.failure .missingCredential)⟩
  else
    match r.request s.accessToken with
    | .error trouble => pure ⟨s, .error trouble⟩
    | .ok request => do
      match ← Exchange.fetch request .tokenInfo "tokeninfo" (timeout.getD r.timeout) with
      | .error trouble => return ⟨s, .error trouble⟩
      | .ok info => accept s info

end Resolver

end SignOn
