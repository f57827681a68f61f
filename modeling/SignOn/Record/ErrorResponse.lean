import SignOn.Shape.Field
import SignOn.Failure.Basic

/-!
The form in which a failure is answered.
-/

namespace SignOn

/-- The answer for a failure. -/
structure ErrorResponse where
  requestId : Option Text
  code : Text
  message : Text
  details : Json.Members
  deriving DecidableEq

namespace ErrorResponse

def ofMembers (ms : Json.Members) : Checked ErrorResponse :=
  ErrorResponse.mk <$> Field.optional ms "request_id" none Field.optionalText <*>
    Field.required ms "code" Field.text <*> Field.required ms "message" Field.text <*>
    Field.optional ms "details" [] Field.members

def members (r : ErrorResponse) : Json.Members :=
  [("request_id", Json.ofOption r.requestId), ("code", .str r.code), ("message", .str r.message),
    ("details", .obj r.details)]

end ErrorResponse

def Failure.response (f : Failure) (requestId : Option Text) : ErrorResponse :=
  ⟨requestId, f.code, f.message, f.details⟩

end SignOn
