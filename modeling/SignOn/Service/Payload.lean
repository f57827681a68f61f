import SignOn.Http.Message
import SignOn.Json.Bytes
import SignOn.Json.Writer
import SignOn.Record.SessionPayload
import SignOn.Failure.Trouble

/-!
The session that a request bears in its body.
-/

namespace SignOn.Service

/-- Why a body bears no session. -/
inductive Refusal where
  | invalid (violations : List Violation)
  /-- the body is garbled -/
  | unreadable
  /-- the answer would have to repeat something that it cannot hold -/
  | unanswerable (b : Breakdown)
  deriving DecidableEq

def bodyPlace : String := "body"

/-- The refusal of a body as a whole. -/
def Refusal.whole (kind : Violation.Kind) : Refusal :=
  .invalid [⟨[bodyPlace], kind⟩]

/-- The part of a value that a violation points at. -/
def pointed (v : Json) (violation : Violation) : Json :=
  match v, violation.path with
  | .obj ms, name :: _ => (Table.get? ms name).getD .null
  | _, _ => v

/-- The words for a violation of a body. Those of violations that point at nothing torn are not needed. -/
def words : Violation.Kind → String
  | .notText => "Input should be a valid string"
  | .unreadableText => "Input should be a valid string, unable to parse raw data as a unicode string"
  | .notMoment => "Input should be a valid datetime"
  | .notBody => "Input should be a valid dictionary or object to extract fields from"
  | kind => kind.label

/-- What is told of the violations of a value: each with the part that it points at. -/
def detail (v : Json) (violations : List Violation) : Json :=
  let row (violation : Violation) : Json :=
    .obj [("type", .str violation.kind.label), ("loc", Json.ofTexts ((bodyPlace :: violation.path).map .whole)),
      ("msg", .str (words violation.kind)), ("input", pointed v violation)]
  .obj [("detail", .arr (violations.map row))]

/-- The refusal of a value for some violations. Its answer repeats the parts that they point at, but there is no text for a
number that is not finite, and there are no bytes for halves of pairs. -/
def refuse (v : Json) (violations : List Violation) : Refusal :=
  if violations.any fun violation => !(pointed v violation).isFinite then
    .unanswerable ⟨.wrongValue, "Out of range float values are not JSON compliant"⟩
  else
    match (detail v violations).refusal? with
    | some words => .unanswerable ⟨.unencodable, words⟩
    | none => .invalid (violations.map (.within bodyPlace))

/-- The session of a value. -/
def payloadOf : Json → Except Refusal SessionPayload
  | .null => .error (.whole .missing)
  | .obj ms =>
    match SessionPayload.ofMembers ms with
    | .valid payload => .ok payload
    | .invalid violations => .error (refuse (.obj ms) violations)
  | v => .error (refuse v [⟨[], .notBody⟩])

def readPayload (request : Http.Incoming) : Except Refusal SessionPayload :=
  if request.body.isEmpty then .error (.whole .missing)
  else if request.isJson then
    match Json.readBytes request.body with
    | .ok v => payloadOf v
    | .error (.source _ (.malformed _ offset)) =>
      .error (.invalid [⟨[bodyPlace, toString offset], .notJson⟩])
    | .error _ => .error .unreadable
  else
    match Utf8.firstFault? 0 (Utf8.pieces none request.body) with
    | some fault => .error (.unanswerable ⟨.faultyByte, (Undecodable.ofUtf8 fault).message⟩)
    | none => .error (.whole .notBody)

/-- What is sent or breaks for a refusal. -/
def Refusal.answer : Refusal → Except Breakdown Http.Answer
  | .invalid violations => .ok (.invalid violations)
  | .unreadable => .ok (.detail 400 "There was an error parsing the body")
  | .unanswerable b => .error b

end SignOn.Service
