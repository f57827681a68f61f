import SignOn.Http.Message

/-!
Routing: a path is compared with patterns of fixed texts and open segments. A path that only differs from a route by
slashes at its end is redirected.
-/

namespace SignOn.Http

inductive Piece where
  | fixed (text : List Char)
  /-- any characters but slashes, at least one -/
  | segment
  deriving DecidableEq

/-- A route: who may come, where, and to what end. -/
structure Route (α : Type) where
  methods : List String
  pattern : List Piece
  endpoint : α

/-- The segments of a path that a pattern fits. A line feed at the very end does not count. -/
def Piece.match? : List Piece → List Char → Option (List String)
  | [], cs => if cs = [] ∨ cs = ['\n'] then some [] else none
  | .fixed text :: rest, cs => if text.isPrefixOf cs then Piece.match? rest (cs.drop text.length) else none
  | .segment :: rest, cs =>
    let segment := cs.takeWhile (· != '/')
    if segment.isEmpty then none
    else (Piece.match? rest (cs.drop segment.length)).map (String.ofList segment :: ·)

/-- What routing finds. -/
inductive Destination (α : Type) where
  | endpoint (a : α) (segments : List String)
  | wrongMethod (methods : List String)
  | elsewhere (path : String)
  | nowhere

variable {α : Type}

def Route.match? (route : Route α) (path : String) : Option (List String) :=
  Piece.match? route.pattern path.toList

/-- The same path with a slash at its end, or without any. -/
def otherEnding (path : String) : String :=
  let cs := path.toList
  if cs.getLast? = some '/' then String.ofList ((cs.reverse.dropWhile (· = '/')).reverse) else path ++ "/"

/-- Where a request goes: to the first route that fits path and method; failing that, it has the wrong method for the
first route that fits the path. -/
def Route.resolve (routes : List (Route α)) (method path : String) : Destination α :=
  let fitting := routes.filterMap fun route => (route.match? path).map fun segments => (route, segments)
  match fitting.find? fun found => found.1.methods.contains method with
  | some (route, segments) => .endpoint route.endpoint segments
  | none =>
    match fitting with
    | (route, _) :: _ => .wrongMethod route.methods
    | [] =>
      let other := otherEnding path
      if path != "/" && routes.any fun route => (route.match? other).isSome then .elsewhere other else .nowhere

/-- The characters of a location that are kept. -/
def keptInLocation (c : Char) : Bool :=
  Percent.unreserved c || ":/%#?=@[]!$&'()*+,;".toList.contains c

/-- The address of a path on the server that a request was sent to. -/
def location (host path query : String) : String :=
  let text := "http://" ++ host ++ path ++ (if query = "" then "" else "?" ++ query)
  String.ofList (Percent.encode keptInLocation text.toList)

end SignOn.Http
