import SignOn.Provider.GroupCheck
import SignOn.Provider.Resolution
import SignOn.Record.ProviderData

/-!
The provider: it tells who a session belongs to, whether its token is valid and whether its user is let in, and moves its
expiry forward as long as the user is. Tokens are never exchanged.
-/

namespace SignOn

structure Provider where
  data : ProviderData
  deriving DecidableEq

namespace Provider

def logger : String := "sso.criteo"

/-- How far a refresh moves the expiry ahead of the clock: a second. -/
def heartbeat : Nat := Moment.second

def resolver (p : Provider) : Resolver :=
  ⟨p.data.profileUrl, p.data.requestTimeout⟩

def directory (p : Provider) : Directory :=
  ⟨p.data.identityUrl, p.data.requestTimeout⟩

def groupCheck (p : Provider) : GroupCheck :=
  ⟨p.directory, p.data.allowedGroups⟩

/-- What a gateway can ask for. -/
inductive Operation where
  | getProfile
  | getEmailAddress
  | getUserName
  | validateSession
  | validateGroup
  | refresh
  deriving DecidableEq

/-- What an operation returns. -/
inductive Value where
  | nothing
  | text (s : Text)
  | truth (b : Bool)
  deriving DecidableEq

def validateSession (p : Provider) (s : Session) (timeout : Option Binary64) : Effect (Except Trouble Bool) :=
  Exchange.validateToken (some p.data.validateUrl) s.accessToken (bearerHeaders s.accessToken)
    (timeout.getD p.data.requestTimeout)

def validateGroup (p : Provider) (s : Session) (timeout : Option Binary64) : Effect (Except Trouble Bool) :=
  p.groupCheck.isAuthorized s.user timeout

/-- The expiry that a refresh writes: a heartbeat after the clock, cut to the whole second. Beyond the year 9999 there is
none. -/
def nextExpiry? (now : Instant) : Option Moment :=
  let later := now + heartbeat
  Moment.ofInstant? (later - later % Moment.second)

/-- Whether a refresh has anything to do. -/
def isDue (s : Session) (now : Instant) : Bool :=
  s.refreshToken != "" && (s.expiresOn.isNone || s.isExpired now)

/-- What a refresh does once the group check has passed. -/
def extend (s : Session) (now : Instant) : Effect (Outcome Bool) :=
  match nextExpiry? now with
  | none => pure ⟨s, .error (.broken .overflow "date value out of range")⟩
  | some expiry => do
    let extended := { s with expiresOn := some expiry }
    Site.note .info logger "refreshed access token"
      [("session", .str extended.text), ("expired_on", Json.ofOption (s.expiresOn.map fun m => ↑m.iso))]
    return ⟨extended, .ok false⟩

/-- Checks the groups of an expired session again and moves its expiry forward. The result tells whether tokens were
exchanged, which they never are. -/
def refresh (p : Provider) (s : Session) (now : Instant) (timeout : Option Binary64) :
    Effect (Outcome Bool) :=
  if isDue s now then do
    match ← p.validateGroup s timeout with
    | .error trouble => return ⟨s, .error trouble⟩
    | .ok true => extend s now
    | .ok false =>
      Site.note .warning logger "Group membership lost on refresh" [("session", .str s.text)]
      return ⟨s, .error (.failure (.membershipLost s.email s.user))⟩
  else pure ⟨s, .ok false⟩

def perform (p : Provider) (op : Operation) (s : Session) (now : Instant) (timeout : Option Binary64) :
    Effect (Outcome Value) :=
  match op with
  | .getProfile => return (← p.resolver.resolve s timeout).map fun _ r => r.map fun _ => .nothing
  | .getEmailAddress => return (← p.resolver.resolve s timeout).map fun s r => r.map fun _ => .text s.email
  | .getUserName => return (← p.resolver.resolve s timeout).map fun s r => r.map fun _ => .text s.user
  | .validateSession => return ⟨s, (← p.validateSession s timeout).map .truth⟩
  | .validateGroup => return ⟨s, (← p.validateGroup s timeout).map .truth⟩
  | .refresh => return (← p.refresh s now timeout).map fun _ r => r.map .truth

/-- Performs an operation where there may be no session. Only a refresh is prepared for that. -/
def performOptional (p : Provider) (op : Operation) (s : Option Session) (now : Instant)
    (timeout : Option Binary64) : Effect (Option Session × Except Trouble Value) :=
  match s, op with
  | some s, op => do
    let o ← p.perform op s now timeout
    return (some o.session, o.result)
  | none, .refresh => return (none, .ok (.truth false))
  | none, _ => return (none, .error (.broken .missingAttribute "there is no session"))

end Provider

end SignOn
