import SignOn.Provider.Basic
import SignOn.Failure.Trouble
import SignOn.Record.ErrorResponse
import SignOn.Service.Payload
import SignOn.Text.Case

/-!
The service: it offers the operations of a provider over the web. A request bears the session that it is about, and the
answer gives the session back as it is then; nothing is kept from one request to the next.
-/

namespace SignOn

structure Service where
  name : String
  /-- whose operations it offers, if it offers any -/
  provider : Option Provider
  /-- whether it shows its own documentation -/
  documented : Bool
  /-- which state of the program runs -/
  commit : String
  deriving DecidableEq

namespace Service

/-- An id as it is made up for a request that bears none: hexadecimal digits and hyphens, always as many. -/
structure FreshId where
  text : String
  length_eq : text.length = 36
  plain : text.toList.all ("0123456789abcdef-".toList.contains ·) = true
  deriving DecidableEq

/-- What a request meets when it arrives: the time, for how long the service has been up, and the id that it is given
where it bears none. -/
structure Arrival where
  now : Instant
  uptime : Binary64
  freshId : FreshId

/-- The calls that bear a session. -/
inductive Call where
  | profile
  | validate
  | authorize
  | refresh
  deriving DecidableEq

/-- What a service answers. -/
inductive Endpoint where
  | documentation (type : String)
  | health
  | overview (p : Provider)
  | call (c : Call) (p : Provider)
  deriving DecidableEq

def version : String := "1.0.0"

def title (s : Service) : String :=
  Case.title s.name ++ " Service"

def Call.path : Call → String
  | .profile => "/auth/profile"
  | .validate => "/auth/session/validate"
  | .authorize => "/auth/session/authorize"
  | .refresh => "/auth/session/refresh"

def Call.operation : Call → Provider.Operation
  | .profile => .getProfile
  | .validate => .validateSession
  | .authorize => .validateGroup
  | .refresh => .refresh

/-- A route with a fixed path. -/
def fixedRoute (methods : List String) (path : String) (endpoint : Endpoint) : Http.Route Endpoint :=
  ⟨methods, [.fixed path.toList], endpoint⟩

def docsPath : String := "/docs"

def redocPath : String := "/redoc"

def documentationRoutes (s : Service) : List (Http.Route Endpoint) :=
  let page (path : String) := fixedRoute ["GET", "HEAD"] path (.documentation "text/html")
  fixedRoute ["GET", "HEAD"] "/openapi.json" (.documentation "application/json") ::
    (if s.documented then [page docsPath, page (docsPath ++ "/oauth2-redirect"), page redocPath] else [])

def providerRoutes (p : Provider) : List (Http.Route Endpoint) :=
  fixedRoute ["GET"] "/" (.overview p) ::
    [Call.profile, .validate, .authorize, .refresh].map fun c => fixedRoute ["POST"] c.path (.call c p)

def routes (s : Service) : List (Http.Route Endpoint) :=
  s.documentationRoutes ++ fixedRoute ["GET"] "/health" .health :: s.provider.elim [] providerRoutes

/-- What is told about the health of a service. -/
def health (s : Service) (uptime : Binary64) : Json.Members :=
  let dependencies : Json.Members :=
    s.provider.elim [] fun p => [("tokeninfo", .str p.data.profileUrl), ("directory", .str p.data.identityUrl)]
  [("service", .str s.name), ("status", .str "ok"), ("uptime_seconds", .real uptime),
    ("dependencies", .obj dependencies), ("version", .str version), ("commit", .str s.commit)]

/-- What is told about a provider. -/
def overview (s : Service) (p : Provider) : Json.Members :=
  [("service", .str s.name), ("provider", .str p.data.providerName), ("scope", .str p.data.scope),
    ("version", .str version)]

/-- Writes the user of a session into the context. -/
def setUser (session : Session) : Effect Unit := fun site =>
  ((), { site with context := site.context.setUser (some session.user) (some session.email) })

def valueOf : Provider.Value → Json
  | .nothing => .null
  | .text s => .str s
  | .truth b => .bool b

/-- The members of an answer: what came of the call, and the session where it may have changed. -/
def Call.members (c : Call) (v : Provider.Value) (session : Session) : Json.Members :=
  let echo := Json.obj (SessionPayload.ofSession session).members
  match c with
  | .profile => [("email", .str session.email), ("user", .str session.user), ("session", echo)]
  | .validate => [("valid", valueOf v)]
  | .authorize => [("authorized", valueOf v)]
  | .refresh => [("refreshed", valueOf v), ("session", echo)]

def perform (s : Service) (p : Provider) (c : Call) (payload : SessionPayload) (now : Instant) :
    Effect (Except Trouble Json.Members) := do
  let session := payload.session
  if c = .authorize ∨ c = .refresh then setUser session
  let outcome ← p.perform c.operation session now none
  match outcome.result with
  | .error trouble => return .error trouble
  | .ok v =>
    if c = .profile then setUser outcome.session
    if c = .validate ∧ v = .truth false then
      Site.note .info s.name "Session token rejected" [("user", .str payload.user)]
    return .ok (c.members v outcome.session)

/-- The answer of some members. Those that hold halves of pairs cannot be sent. -/
def tell (status : Nat) (members : Json.Members) : Except Breakdown Http.Answer :=
  match (Json.obj members).refusal? with
  | some words => .error ⟨.unencodable, words⟩
  | none => .ok { status, body := .json (.obj members) }

/-- The answer for a failure, which is written down under the context that has been reached by then. -/
def report (s : Service) (f : Failure) : Effect (Except Breakdown Http.Answer) := do
  Site.note .error s.name "Access layer error"
    [("code", .str f.code), ("message", .str f.message), ("details", .obj f.details)]
  let context := (← get).context
  return tell f.status (f.response context.requestId).members

def answerCall (s : Service) (p : Provider) (c : Call) (request : Http.Incoming) (now : Instant) :
    Effect (Except Breakdown Http.Answer) :=
  match readPayload request with
  | .error refusal => pure refusal.answer
  | .ok payload => do
    match ← s.perform p c payload now with
    | .ok members => return tell 200 members
    | .error (.failure f) => s.report f
    | .error (.breakdown b) => return .error b
    | .error (.invalid violations) =>
      return .error ⟨.wrongValue, s!"{violations.length} validation errors"⟩

/-- What a request finds. -/
def answer (s : Service) (request : Http.Incoming) (arrival : Arrival) : Effect (Except Breakdown Http.Answer) :=
  match Http.Route.resolve s.routes request.method request.path with
  | .endpoint (.documentation type) _ => pure (.ok { status := 200, body := .media type })
  | .endpoint .health _ => pure (.ok { status := 200, body := .json (.obj (s.health arrival.uptime)) })
  | .endpoint (.overview p) _ => pure (.ok { status := 200, body := .json (.obj (s.overview p)) })
  | .endpoint (.call c p) _ => s.answerCall p c request arrival.now
  | .wrongMethod methods => pure (.ok (.wrongMethod methods))
  | .elsewhere path =>
    pure (.ok (.redirect (Http.location ((request.header? "host").getD "") path request.query)))
  | .nowhere => pure (.ok .notFound)

/-- The answer for a breakdown. -/
def internalError : Http.Answer where
  status := 500
  body :=
    .json (.obj [("code", .str "INTERNAL_ERROR"), ("message", .str "Internal server error"), ("details", .obj [])])

/-- Handles a request. It is answered within a context of its own, in which it keeps the id that it bears or is given
one. A breakdown is answered outside of that context. -/
def handle (s : Service) (request : Http.Incoming) (arrival : Arrival) : Effect Http.Answer := do
  let context := (← get).context.setRequest ((request.header? "x-request-id").map .whole) arrival.freshId.text
  Site.setContext context
  match ← s.answer request arrival with
  | .ok answer =>
    Site.setContext context
    Site.note .info s.name "HTTP request"
      [("method", .str request.method), ("path", .str request.toldPath), ("status_code", .int answer.status)]
    Site.setContext .empty
    return { answer with requestId := context.requestId }.forMethod request.method
  | .error b =>
    Site.setContext .empty
    Site.note .error s.name "Unhandled exception" [("error", .str b.text)]
    return internalError.forMethod request.method

end Service

end SignOn
