import SignOn.Json.Token

/-!
Reading a value. The tokens are taken one by one; a stack holds the arrays and objects that are still open. The
first token that does not fit decides the fault.
-/

namespace SignOn.Json

/-- An array or object that is still open, its items or members last first. -/
inductive Frame where
  | items (done : List Json)
  | members (done : Members) (name : Text)

/-- What may come next. -/
inductive Stage where
  /-- a value, or the end of an array that has just begun -/
  | value (fresh : Bool)
  /-- a member name, or the end of an object that has just begun -/
  | name (done : Members) (fresh : Bool)
  /-- the colon behind a member name -/
  | colon
  /-- a comma or the end of what is open, or the end of the text -/
  | after (v : Json)

/-- The object of some members, last first. -/
def closeMembers (done : Members) : Json :=
  .obj (Table.ofRows done.reverse)

/-- The value of a text, from its tokens on, with the length of the text as the offset of its end. -/
def assemble (length : Nat) : Stage → List Frame → List (Nat × Token) → Except Fault Json
  | .value _, _, [] => .error (.malformed .noValue length)
  | .name .., _, [] => .error (.malformed .noName length)
  | .colon, _, [] => .error (.malformed .noColon length)
  | .after v, [], [] => .ok v
  | .after _, _ :: _, [] => .error (.malformed .noComma length)
  | .after _, [], (offset, _) :: _ => .error (.malformed .trailing offset)
  | .value fresh, frames, (offset, token) :: rest =>
    match token with
    | .text s => assemble length (.after (.str s)) frames rest
    | .scalar v => assemble length (.after v) frames rest
    | .faultyText fault | .faultyNumber fault => .error fault
    | .openArray =>
      if maxDepth ≤ frames.length then .error (.tooDeep false)
      else assemble length (.value true) (.items [] :: frames) rest
    | .openObject =>
      if maxDepth ≤ frames.length then .error (.tooDeep true)
      else assemble length (.name [] true) frames rest
    | .closeArray =>
      match fresh, frames with
      | true, _ :: frames => assemble length (.after (.arr [])) frames rest
      | _, _ => .error (.malformed .noValue offset)
    | _ => .error (.malformed .noValue offset)
  | .name done fresh, frames, (offset, token) :: rest =>
    match token with
    | .text s => assemble length .colon (.members done s :: frames) rest
    | .faultyText fault => .error fault
    | .closeObject =>
      if fresh then assemble length (.after (.obj [])) frames rest
      else .error (.malformed .noName offset)
    | _ => .error (.malformed .noName offset)
  | .colon, frames, (offset, token) :: rest =>
    match token with
    | .colon => assemble length (.value false) frames rest
    | _ => .error (.malformed .noColon offset)
  | .after v, .items done :: frames, (offset, token) :: rest =>
    match token with
    | .comma => assemble length (.value false) (.items (v :: done) :: frames) rest
    | .closeArray => assemble length (.after (.arr (v :: done).reverse)) frames rest
    | _ => .error (.malformed .noComma offset)
  | .after v, .members done name :: frames, (offset, token) :: rest =>
    match token with
    | .comma => assemble length (.name ((name, v) :: done) false) frames rest
    | .closeObject => assemble length (.after (closeMembers ((name, v) :: done))) frames rest
    | _ => .error (.malformed .noComma offset)

/-- The value that a source with halves denotes, or its first fault. -/
def readWith (halves : Table Half Nat) (text : List Char) : Except Fault Json :=
  assemble text.length (.value false) [] (tokens halves 0 0 text)

/-- The value that a text denotes, or its first fault. -/
def read (text : List Char) : Except Fault Json :=
  readWith [] text

def read? (text : String) : Option Json :=
  (read text.toList).toOption

end SignOn.Json
