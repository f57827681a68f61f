import SignOn.Http.Route
import SignOn.Failure.Trouble

/-!
A sign-on realm with its directory, held in two tables: the owner of each token, and the entry and groups of each user.
It answers over the same protocol as the real services, and its groups can be changed.
-/

namespace SignOn

/-- What the directory holds of a user. -/
structure Realm.User where
  cn : String
  groups : List String
  deriving DecidableEq

/-- The two tables. -/
structure Realm where
  /-- the owner of each token, as it is told -/
  tokens : Table Json.Members
  users : Table Realm.User
  deriving DecidableEq

namespace Realm

def name : String := "criteo"

/-- The realm that development starts with. -/
def standard : Realm where
  tokens :=
    [ ("token-jdoe", [("mail", .str "j.doe@example.com"), ("dn", .str "uid=j.doe,ou=people")]),
      ("token-asmith", [("mail", .str "a.smith@example.com"), ("dn", .str "uid=a.smith,ou=people")]),
      ("token-noemail", [("mail", .str ""), ("dn", .str "uid=ghost,ou=people")]) ]
  users :=
    [ ("uid=j.doe,ou=people", ⟨"John Doe", ["eng", "ops"]⟩),
      ("uid=a.smith,ou=people", ⟨"Alice Smith", ["sales"]⟩) ]

/-- Changes the groups of a known user. -/
def setGroups (r : Realm) (dn : String) (groups : List String) : Except Trouble Realm :=
  match r.users.get? dn with
  | none => .error (.broken .missingKey dn)
  | some user => .ok { r with users := r.users.put dn { user with groups } }

inductive Endpoint where
  | tokenInfo
  | groups
  | entry
  | documentation (type : String)
  deriving DecidableEq

def routes : List (Http.Route Endpoint) :=
  let get := ["GET"]
  let read := ["GET", "HEAD"]
  let fixed (text : String) : List Http.Piece := [.fixed text.toList]
  [ ⟨read, fixed "/openapi.json", .documentation "application/json"⟩,
    ⟨read, fixed "/docs", .documentation "text/html"⟩,
    ⟨read, fixed "/docs/oauth2-redirect", .documentation "text/html"⟩,
    ⟨read, fixed "/redoc", .documentation "text/html"⟩,
    ⟨get, fixed "/auth/oauth2/tokeninfo", .tokenInfo⟩,
    ⟨get, [.fixed "/user/".toList, .segment, .fixed "/groups".toList], .groups⟩,
    ⟨get, [.fixed "/user/".toList, .segment], .entry⟩ ]

/-- The owner of the token in a header. -/
def owner (r : Realm) (authorization : Option String) : Http.Answer :=
  let scheme := "Bearer ".toList
  match authorization with
  | none => .detail 401 "Missing bearer token"
  | some text =>
    if scheme.isPrefixOf text.toList then
      match r.tokens.get? (String.ofList (text.toList.drop scheme.length)) with
      | none => .detail 401 "Invalid token"
      | some members => { status := 200, body := .json (.obj members) }
    else .detail 401 "Missing bearer token"

def answerToken (r : Realm) (request : Http.Incoming) : Http.Answer :=
  match request.parameter? "realm" with
  | none => .invalid [⟨["query", "realm"], .missing⟩]
  | some realm =>
    if realm = name then r.owner (request.header? "authorization") else .detail 404 "Realm not found"

def answerUser (r : Realm) (dn : String) (write : User → Json) : Http.Answer :=
  match r.users.get? dn with
  | none => .detail 404 "User not found"
  | some user => { status := 200, body := .json (write user) }

/-- What a request finds. -/
def find (r : Realm) (request : Http.Incoming) : Http.Answer :=
  match Http.Route.resolve routes request.method request.path with
  | .endpoint .tokenInfo _ => r.answerToken request
  | .endpoint .groups segments =>
    r.answerUser (segments.headD "") fun user => .arr (user.groups.map fun (g : String) => .obj [("name", .str g)])
  | .endpoint .entry segments =>
    let dn := segments.headD ""
    r.answerUser dn fun user => .obj [("cn", .str user.cn), ("dn", .str dn)]
  | .endpoint (.documentation type) _ => { status := 200, body := .media type }
  | .wrongMethod methods => .wrongMethod methods
  | .elsewhere path =>
    .redirect (Http.location ((request.header? "host").getD "") path request.query)
  | .nowhere => .notFound

def answer (r : Realm) (request : Http.Incoming) : Http.Answer :=
  (r.find request).forMethod request.method

end Realm

end SignOn
