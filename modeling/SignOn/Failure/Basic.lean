import SignOn.Json.Basic

/-!
Failures of the access layer: the closed family of errors that its callers are prepared for.
-/

namespace SignOn

inductive Failure.Kind where
  /-- none of the others -/
  | general
  | authentication
  | authorization
  | external
  | missingCredential
  | profileIncomplete
  | membershipLost
  | remoteUnavailable
  | undecodable
  | cancelled
  deriving DecidableEq

namespace Failure.Kind

/-- The kind that a kind is a case of. -/
def parent : Kind → Option Kind
  | .general => none
  | .authentication | .authorization | .external | .cancelled => some .general
  | .missingCredential | .profileIncomplete => some .authentication
  | .membershipLost => some .authorization
  | .remoteUnavailable | .undecodable => some .external

/-- A kind and all that it is a case of, the most general last. -/
def lineage (k : Kind) : List Kind :=
  k :: match k.parent with
    | none => []
    | some p => p :: match p.parent with
      | none => []
      | some q => [q]

/-- The status that the gateway answers with. -/
def status : Kind → Nat
  | .general => 400
  | .authentication | .missingCredential | .profileIncomplete => 401
  | .authorization | .membershipLost => 403
  | .external | .remoteUnavailable | .undecodable => 502
  | .cancelled => 504

/-- The code that a failure of a kind has unless it is given another. -/
def code : Kind → String
  | .general => ""
  | .authentication => "AUTHENTICATION_ERROR"
  | .authorization => "AUTHORIZATION_ERROR"
  | .external => "EXTERNAL_SERVICE_ERROR"
  | .missingCredential => "MISSING_CREDENTIAL"
  | .profileIncomplete => "PROFILE_INCOMPLETE"
  | .membershipLost => "GROUP_MEMBERSHIP_LOST"
  | .remoteUnavailable => "REMOTE_UNAVAILABLE"
  | .undecodable => "DECODE_ERROR"
  | .cancelled => "CANCELLED"

/-- The message that a failure of a kind has unless it is given another. -/
def message : Kind → String
  | .general => ""
  | .authentication => "Authentication failed"
  | .authorization => "Authorization failed"
  | .external => "External service error"
  | .missingCredential => "missing access token"
  | .profileIncomplete => "can't find email"
  | .membershipLost => "user is no longer in the group(s)"
  | .remoteUnavailable => "service unavailable"
  | .undecodable => "malformed response"
  | .cancelled => "request cancelled"

end Failure.Kind

structure Failure where
  kind : Failure.Kind
  code : String
  message : Text
  details : Json.Members
  deriving DecidableEq

namespace Failure

def ofKind (kind : Kind) (message : Text) (details : Json.Members) : Failure :=
  ⟨kind, kind.code, message, details⟩

/-- There is no access token. -/
def missingCredential : Failure :=
  ofKind .missingCredential Kind.missingCredential.message []

/-- The token belongs to someone without an email. -/
def profileIncomplete (user : Text) : Failure :=
  ofKind .profileIncomplete Kind.profileIncomplete.message [("user", .str user)]

/-- The user of an email has left every allowed group. -/
def membershipLost (email user : Text) : Failure :=
  ofKind .membershipLost (email ++ " is no longer in the group(s)") [("user", .str user)]

/-- A service could not be reached, or answered with another status than 200. -/
def remoteUnavailable (service message : String) (details : Json.Members) : Failure :=
  ofKind .remoteUnavailable ↑(service ++ ": " ++ message) details

/-- A service answered with something else than what was asked for. -/
def undecodable (service message : String) (details : Json.Members) : Failure :=
  ofKind .undecodable ↑(service ++ ": " ++ message) details

/-- A request was given up before it was answered. -/
def cancelled (message : String) (details : Json.Members) : Failure :=
  ofKind .cancelled message details

def status (f : Failure) : Nat :=
  f.kind.status

end Failure

end SignOn
