import SignOn.Site
import SignOn.Record.Profile
import SignOn.Json.Bytes
import SignOn.Http.MediaType
import SignOn.Text.Hex

/-!
Exchanges with remote services: a request is prepared and sent once, and its reply is judged. Either the body of a 200
is read into a record, or only the status tells whether a token is valid. Nothing is ever tried again.
-/

namespace SignOn

namespace Trouble

/-- A breakdown for an address that is none. -/
def ofUrlFault (fault : Url.Fault) : Trouble :=
  .broken .invalidAddress fault.message

/-- A breakdown for a media type whose parameters have no reading. -/
def ofMediaFault : MediaType.Fault → Trouble
  | .mixed true => .broken .wrongType "'<' not supported between instances of 'int' and 'NoneType'"
  | .mixed false => .broken .wrongType "'<' not supported between instances of 'NoneType' and 'int'"
  | .longNumber digits => .broken .wrongValue ((Json.Fault.tooManyDigits digits).message [])
  | .zero => .broken .wrongValue "embedded null character"

/-- A breakdown for bytes without a text. -/
def ofRefusal : Charset.Refusal → Trouble
  | .unmarked bits => .broken .undecodable s!"UTF-{bits} stream does not start with BOM"
  | .notAscii u => .broken .faultyByte u.message
  | .transfer => .broken .failedAssertion ""
  | .rotation => .broken .wrongType "descriptor 'translate' for 'str' objects doesn't apply to a 'bytes' object"
  | .hostNames => .broken .undecodable "Unsupported error handling replace"
  | .undefined => .broken .undecodable "undefined encoding"

end Trouble

namespace Request

/-- Joins headers of one name, which is written in lower case, in the place of the first. -/
def joinHeaders (headers : Headers) : Headers :=
  headers.foldl
    (fun joined h =>
      let name := String.ofList (h.1.toList.map Char.toLower)
      joined.put name ((joined.get? name).elim h.2 (· ++ ", " ++ h.2)))
    []

/-- The words of refusal for the first header that is not ASCII. -/
def headerRefusal? (headers : Table Text) : Option String :=
  headers.findSome? fun h => (Ascii.refusal? h.1).or (Ascii.refusal? h.2)

/-- The headers whose values are characters, as those of all ASCII headers are. -/
def wholeHeaders (headers : Table Text) : Headers :=
  headers.filterMap fun h => h.2.whole?.map (h.1, ·)

/-- The host header, unless one is given or there is no host. -/
def hostHeader (url : Url) (given : Headers) : Headers :=
  if url.host = "" || given.has "host" then [] else [("host", url.netloc)]

/-- The length header of a method that could have a body. -/
def lengthHeader (method : String) (given : Headers) : Headers :=
  if ["POST", "PUT", "PATCH"].contains method && !given.has "content-length" &&
      !given.has "transfer-encoding" then
    [("content-length", "0")]
  else []

/-- The value of the authorization header for the user information of an address, if it has any. -/
def basic? (url : Url) : Option String :=
  let (name, password) := url.credentials
  if name = "" ∧ password = "" then none
  else
    let pair := Utf8.encode (name ++ ":" ++ password).toList
    some ("Basic " ++ String.ofList (Base64.encode pair))

/-- A request for an address. User information in the address counts over an authorization header. -/
def make (method : String) (url : Url) (headers : Table Text) : Except Trouble Request :=
  match headerRefusal? headers with
  | some words => .error (.broken .unencodable words)
  | none =>
    let method := String.ofList (method.toList.map Char.toUpper)
    let given := joinHeaders (wholeHeaders headers)
    let all : Headers := hostHeader url given ++ lengthHeader method given ++ given
    let all :=
      match basic? url with
      | none => all
      | some value => all.put "authorization" value
    .ok ⟨method, url, all⟩

end Request

def bearerHeaders (token : Text) : Table Text :=
  [("Accept", "application/json"), ("Authorization", "Bearer " ++ token)]

namespace Response

/-- The body as a text. An empty one has no need of a charset. -/
def text (r : Response) : Except Trouble String := do
  if r.body = [] then return ""
  else
    let charset ← (MediaType.charset (r.header? "content-type")).mapError .ofMediaFault
    let cs ← (charset.decode r.body).mapError .ofRefusal
    return String.ofList cs

end Response

namespace Exchange

def logger : String := "sso.http_client"

/-- Ten seconds, the time that a request has unless it is given another. -/
def defaultTimeout : Binary64 := Binary64.ofInt 10

/-- What is wrong with a body. -/
inductive Misfit where
  | garbled (g : Json.Garbled)
  | misshapen (violations : List Violation)
  deriving DecidableEq

/-- A misfit as it is told in messages. -/
def Misfit.told : Misfit → Json
  | .garbled g => .str g.message
  | .misshapen violations => Violation.summary violations

/-- Whether a body could not be read because it nests too deep. -/
def Misfit.tooDeep? : Misfit → Option String
  | .garbled (.source text (.tooDeep object)) => some ((Json.Fault.tooDeep object).message text)
  | _ => none

def readBody {α : Type} (target : Target α) (body : List UInt8) : Except Misfit α :=
  match Json.readBytes body with
  | .error g => .error (.garbled g)
  | .ok v =>
    match target.check v with
    | .valid a => .ok a
    | .invalid violations => .error (.misshapen violations)

/-- A note on a reply: level, event and fields. -/
structure Remark where
  level : Level
  event : String
  fields : Json.Members
  deriving DecidableEq

/-- What the reply to a request for a record comes to, with the remarks on it. -/
def judge {α : Type} (target : Target α) (service url : String) : Reply → List Remark × Except Trouble α
  | .broken b => ([], .error (.breakdown b))
  | .failed fault message =>
    let fields : Json.Members := [("service", .str service), ("url", .str url), ("error", .str message)]
    if fault.isTimeout then
      ([⟨.warning, "Request timed out", fields⟩],
        .error (.failure (.cancelled (service ++ ": request to " ++ url ++ " timed out") [("url", .str url)])))
    else
      ([⟨.error, "HTTP transport error", fields⟩],
        .error (.failure
          (.remoteUnavailable service (if message = "" then fault.name else message) [("url", .str url)])))
  | .answered r =>
    let seen : Remark :=
      ⟨.debug, "GET", [("service", .str service), ("url", .str url), ("status_code", .int r.status)]⟩
    if r.status ≠ 200 then
      match r.text with
      | .error trouble => ([seen], .error trouble)
      | .ok text =>
        ([seen],
          .error (.failure
            (.remoteUnavailable service s!"got {r.status} {text}"
              [("url", .str url), ("status_code", .int r.status)])))
    else
      match readBody target r.body with
      | .ok a => ([seen], .ok a)
      | .error misfit =>
        match misfit.tooDeep? with
        | some words => ([seen], .error (.broken .tooDeep words))
        | none =>
          ([seen, ⟨.error, "Malformed response body",
              [("service", .str service), ("url", .str url), ("error", misfit.told)]⟩],
            .error (.failure
              (.undecodable service ("error unmarshalling response from " ++ url)
                [("url", .str url), ("error", misfit.told)])))

def remark (remarks : List Remark) : Effect Unit :=
  remarks.forM fun r => Site.note r.level logger r.event r.fields

def fetch {α : Type} (request : Request) (target : Target α) (service : String) (timeout : Binary64) :
    Effect (Except Trouble α) := do
  let reply ← Site.send request timeout
  let (remarks, result) := judge target service request.url.text reply
  remark remarks
  return result

/-- What the reply to a token check comes to, with the remarks on it. The endpoint is the address without its query, which
may hold the token. -/
def judgeToken (endpoint : String) : Reply → List Remark × Except Trouble Bool
  | .broken b => ([], .error (.breakdown b))
  | .failed fault message =>
    if fault.isTimeout then
      ([⟨.warning, "Token validation timed out", [("url", .str endpoint)]⟩],
        .error (.failure
          (.cancelled ("token validation against " ++ endpoint ++ " timed out") [("url", .str endpoint)])))
    else
      ([⟨.error, "Token validation request failed", [("url", .str endpoint), ("error", .str message)]⟩],
        .ok false)
  | .answered r =>
    if r.status = 200 then ([], .ok true)
    else
      match r.text with
      | .error trouble => ([], .error trouble)
      | .ok text =>
        ([⟨.warning, "Token validation request failed",
            [("url", .str endpoint), ("status_code", .int r.status), ("body", .str text)]⟩],
          .ok false)

/-- The request of a token check and the endpoint it is told by. Without headers the token travels in the query. -/
def tokenRequest (validateUrl : String) (token : Text) (headers : Table Text) :
    Except Trouble (Request × String) := do
  let url ← (Url.read validateUrl).mapError .ofUrlFault
  let url ←
    if headers.isEmpty then do
      let token ← token.encodable
      (url.withParameter "access_token" token).mapError .ofUrlFault
    else .ok url
  let request ← Request.make "GET" url headers
  let endpoint ← (url.withQuery none).mapError .ofUrlFault
  return (request, endpoint.text)

/-- Checks a token. Without a token or an address it is not valid, and nobody is asked. -/
def validateToken (validateUrl : Option String) (token : Text) (headers : Table Text)
    (timeout : Binary64) : Effect (Except Trouble Bool) :=
  let address := validateUrl.getD ""
  if token = "" ∨ address = "" then pure (.ok false)
  else
    match tokenRequest address token headers with
    | .error trouble => pure (.error trouble)
    | .ok (request, endpoint) => do
      let reply ← Site.send request timeout
      let (remarks, result) := judgeToken endpoint reply
      remark remarks
      return result

end Exchange

end SignOn
