import SignOn.Shape.Violation
import SignOn.Json.Writer
import SignOn.Text.Form
import SignOn.Text.Cut
import SignOn.Url.Reader
import SignOn.Network

/-!
Requests and answers on the serving side.
-/

namespace SignOn.Http

/-- A request as a server sees it. -/
structure Incoming where
  method : String
  /-- the path, escapes undone -/
  path : String
  /-- what stands behind the question mark, as it was written -/
  query : String
  /-- names in lower case -/
  headers : Headers
  body : List UInt8
  deriving DecidableEq

namespace Incoming

/-- The first header of a name. -/
def header? (r : Incoming) (name : String) : Option String :=
  r.headers.get? name

/-- The last value of a query parameter. -/
def parameter? (r : Incoming) (name : String) : Option String :=
  (Form.decode r.query.toList).last? name

/-- A request as it arrives with a body. -/
def ofRequest (request : Request) (body : List UInt8) : Incoming :=
  let path := if request.url.path = "" then "/" else request.url.path
  ⟨request.method, String.ofList (Percent.decode path.toList), request.url.query.getD "", request.headers, body⟩

/-- Whether a character is lost when an address is read. -/
def isDropped (c : Char) : Bool :=
  c == '\t' || c == '\n' || c == '\r'

/-- The path as it is told in logs, where it is read back from the whole address: a question mark or a number sign ends
it. -/
def toldPath (r : Incoming) : String :=
  let address := (((r.header? "host").getD "") ++ r.path).toList.filter (!isDropped ·)
  let path := address.dropWhile fun c => c != '/' && c != '?' && c != '#'
  String.ofList (path.takeWhile fun c => c != '?' && c != '#')

/-- Whether the body is declared to be in the interchange format. -/
def isJson (r : Incoming) : Bool :=
  let declared := ((r.header? "content-type").getD "").toList.takeWhile (· != ';')
  match Text.cut '/' ((Blank.trim Blank.isBlank declared).map Char.toLower) with
  | [main, sub] => main == "application".toList && (sub == "json".toList || "+json".toList.isSuffixOf sub)
  | _ => false

end Incoming

/-- What an answer carries. -/
inductive Body where
  | empty
  | json (v : Json)
  | invalid (violations : List Violation)
  /-- something else, of which only the media type is told -/
  | media (type : String)
  deriving DecidableEq

structure Answer where
  status : Nat
  body : Body
  allow : Option String := none
  location : Option String := none
  requestId : Option Text := none
  deriving DecidableEq

namespace Answer

/-- An answer that only says what is wrong. -/
def detail (status : Nat) (text : String) : Answer :=
  { status, body := .json (.obj [("detail", .str text)]) }

def notFound : Answer := detail 404 "Not Found"

/-- There is something, but not for this method. -/
def wrongMethod (methods : List String) : Answer :=
  { detail 405 "Method Not Allowed" with allow := some (", ".intercalate methods) }

/-- The request does not have the shape it should have. -/
def invalid (violations : List Violation) : Answer :=
  { status := 422, body := .invalid violations }

def redirect (location : String) : Answer :=
  { status := 307, body := .empty, location := some location }

/-- The answer to a method: one that only asks for the head gets no body. -/
def forMethod (a : Answer) (method : String) : Answer :=
  if method = "HEAD" then { a with body := .empty } else a

/-- A violation as it is sent: a missing part is called required. -/
def report (v : Violation) : Json :=
  let words := if v.kind = .missing then "Field required" else v.kind.label
  .obj [("type", .str v.kind.label), ("loc", Json.ofTexts (v.path.map .whole)), ("msg", .str words), ("input", .null)]

/-- The value that a body carries, if it carries one. -/
def value? (a : Answer) : Option Json :=
  match a.body with
  | .json v => some v
  | .invalid violations => some (.obj [("detail", .arr (violations.map report))])
  | _ => none

def response (a : Answer) : Response :=
  let body :=
    match a.value? with
    | some v => Utf8.encode v.write
    | none => []
  let type :=
    match a.body with
    | .empty => []
    | .media type => [("content-type", type)]
    | _ => [("content-type", "application/json")]
  ⟨a.status, type ++ (a.location.elim [] fun l => [("location", l)]), body⟩

end Answer

end SignOn.Http
