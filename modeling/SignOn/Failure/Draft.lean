import SignOn.Failure.Trouble
import SignOn.Record.ErrorResponse
import SignOn.Json.Display

/-!
Failures made from arguments of any kind, in order or by name. What fits is a failure; what does not is still shown,
but has no answer form.
-/

namespace SignOn.Failure

/-- The parameters of a kind of failure, with the values of those that may be left out. -/
def Kind.parameters (k : Kind) : List (String × Option Json) :=
  let message := ("message", some (Json.str k.message))
  let details := ("details", some Json.null)
  let code := ("code", some (Json.str k.code))
  match k with
  | .general => [("code", none), ("message", none), details]
  | .authentication | .authorization => [message, details, code]
  | .external => [("service", none), message, details, code]
  | .remoteUnavailable | .undecodable => [("service", none), message, details]
  | .missingCredential | .profileIncomplete | .membershipLost | .cancelled => [message, details]

/-- The value of each parameter: from the arguments in order, then from the named ones, then the one for a missing
argument. -/
def bindParameters (named : Json.Members) :
    List (String × Option Json) → List Json → Option Json.Members
  | [], [] => some []
  | [], _ :: _ => none
  | (name, _) :: ps, v :: vs =>
    if named.has name then none else (bindParameters named ps vs).map ((name, v) :: ·)
  | (name, otherwise) :: ps, [] => do
    let v ← (named.get? name).or otherwise
    let rest ← bindParameters named ps []
    some ((name, v) :: rest)

/-- A failure before its parts are checked. -/
structure Draft where
  kind : Kind
  code : Json
  message : Json
  details : Json
  service : Option Json
  deriving DecidableEq

namespace Draft

def make (kind : Kind) (arguments : List Json) (named : Json.Members) : Except Trouble Draft :=
  let parameters := kind.parameters
  if named.all fun m => parameters.any (·.1 == m.1) then
    match bindParameters named parameters arguments with
    | none => .error (.broken .wrongType "arguments do not fit the parameters")
    | some bound =>
      let part (name : String) : Json := (bound.get? name).getD .null
      let details := if (part "details").isBlank then .obj [] else part "details"
      let service := bound.get? "service"
      let message :=
        match service with
        | none => part "message"
        | some s => .str (s.display ++ ": " ++ (part "message").display)
      .ok ⟨kind, (bound.get? "code").getD (.str kind.code), message, details, service⟩
  else .error (.broken .wrongType "unknown argument")

def text (d : Draft) : Text :=
  d.message.display

def response (d : Draft) (requestId : Option Text) : Checked ErrorResponse :=
  ErrorResponse.ofMembers
    [("request_id", Json.ofOption requestId), ("code", d.code), ("message", d.message), ("details", d.details)]

end Draft

end SignOn.Failure
