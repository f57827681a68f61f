import SignOn.Calendar.Iso
import SignOn.Failure.Trouble

/-!
Sessions. A gateway owns them; here their email, user key and expiry are filled in, and never a token.
-/

namespace SignOn

structure Session where
  accessToken : Text := ""
  refreshToken : Text := ""
  email : Text := ""
  user : Text := ""
  expiresOn : Option Moment := none
  deriving DecidableEq

namespace Session

/-- Whether the expiry is set and not later than an instant. -/
def isExpired (s : Session) (now : Instant) : Bool :=
  match s.expiresOn with
  | none => false
  | some m => m.instant ≤ now

/-- Whether the expiry is not later than a moment. A clock of unknown distance from universal time cannot be compared with
an expiry. -/
def isExpiredAt (s : Session) (m : Moment) : Except Trouble Bool :=
  if s.expiresOn.isSome ∧ m.isNaive then
    .error (.broken .wrongType "can't compare offset-naive and offset-aware datetimes")
  else .ok (s.isExpired m.instant)

def isResolved (s : Session) : Bool :=
  s.user != "" && s.email != ""

/-- The text of a session for logs: it tells whether there are tokens, not which. -/
def text (s : Session) : Text :=
  let shown : List Text := ["email:" ++ s.email, "user:" ++ s.user]
  let token : List Text := if s.accessToken = "" then [] else ["token:true"]
  let expiry : List Text := s.expiresOn.elim [] fun m => ["expires:" ++ m.iso]
  let refreshToken : List Text := if s.refreshToken = "" then [] else ["refresh_token:true"]
  let parts := shown ++ token ++ expiry ++ refreshToken
  "Session\x7b" ++ Text.join " " parts ++ "\x7d"

@[simp] theorem isExpired_none (s : Session) (now : Instant) (h : s.expiresOn = none) :
    s.isExpired now = false := by
  simp [isExpired, h]

theorem isExpired_iff (s : Session) (now : Instant) :
    s.isExpired now ↔ ∃ m, s.expiresOn = some m ∧ m.instant ≤ now := by
  unfold isExpired
  cases s.expiresOn <;> simp

end Session

end SignOn
