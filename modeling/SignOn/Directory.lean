import SignOn.Exchange

/-!
The directory service: entries and groups of users, each at a path made of the user's key.
-/

namespace SignOn

structure Directory where
  baseUrl : String
  timeout : Binary64 := Exchange.defaultTimeout
  deriving DecidableEq

namespace Directory

/-- The characters of a user key that are kept in a path. -/
def keptInKey (c : Char) : Bool :=
  Percent.unreserved c || "/=,:@;+&$".toList.contains c

def entryPath (userKey : String) : String :=
  String.ofList (Percent.encode keptInKey userKey.toList)

def groupsPath (userKey : String) : String :=
  entryPath userKey ++ "/groups"

/-- The headers of a lookup: none, or those of a token, which must not be empty. -/
def headers : Option Text → Except Trouble (Table Text)
  | none => .ok []
  | some token => if token = "" then .error (.failure .missingCredential) else .ok (bearerHeaders token)

def request (d : Directory) (path : String) (headers : Table Text) : Except Trouble Request := do
  let url ← (Url.read (d.baseUrl ++ path)).mapError .ofUrlFault
  Request.make "GET" url headers

def fetch {α : Type} (d : Directory) (path : String) (target : Target α) (token : Option Text)
    (timeout : Option Binary64) : Effect (Except Trouble α) :=
  match headers token with
  | .error trouble => pure (.error trouble)
  | .ok headers => do
    Site.note .debug "sso.directory_client" "Directory lookup"
      [("path", .str path), ("authenticated", .bool token.isSome)]
    match d.request path headers with
    | .error trouble => return .error trouble
    | .ok request => Exchange.fetch request target "directory" (timeout.getD d.timeout)

end Directory

end SignOn
