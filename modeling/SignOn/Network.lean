import SignOn.Url.Join
import SignOn.Failure.Trouble
import SignOn.Number.Binary64

/-!
The network as the access layer sees it: requests go out, and each is answered or fails. An answer that leads elsewhere
is not followed, but a request to that place is prepared, and that may fail.
-/

namespace SignOn

abbrev Headers := Table String

structure Request where
  method : String
  url : Url
  /-- names in lower case -/
  headers : Headers
  deriving DecidableEq

/-- A request as it went out, with the time it was given. -/
structure Sent where
  request : Request
  timeout : Binary64
  deriving DecidableEq

/-- An answer, its content coding undone. One that leads to a host with an international name, outside ASCII or with
`xn--` in front, is left out: such names are read by a library of their own. -/
structure Response where
  status : Nat
  headers : Headers
  body : List UInt8
  deriving DecidableEq

/-- The kinds of failed exchange that the access layer knows. -/
inductive Exchange.Fault where
  | connectTimeout
  | readTimeout
  | writeTimeout
  | poolTimeout
  | timeout
  | connect
  | read
  | write
  | close
  | network
  | protocol
  | localProtocol
  | remoteProtocol
  | proxy
  | unsupportedProtocol
  | decoding
  | tooManyRedirects
  | transport
  | request
  | http
  deriving DecidableEq

namespace Exchange.Fault

/-- Whether the time ran out. -/
def isTimeout : Fault → Bool
  | .connectTimeout | .readTimeout | .writeTimeout | .poolTimeout | .timeout => true
  | _ => false

def name : Fault → String
  | .connectTimeout => "ConnectTimeout"
  | .readTimeout => "ReadTimeout"
  | .writeTimeout => "WriteTimeout"
  | .poolTimeout => "PoolTimeout"
  | .timeout => "TimeoutException"
  | .connect => "ConnectError"
  | .read => "ReadError"
  | .write => "WriteError"
  | .close => "CloseError"
  | .network => "NetworkError"
  | .protocol => "ProtocolError"
  | .localProtocol => "LocalProtocolError"
  | .remoteProtocol => "RemoteProtocolError"
  | .proxy => "ProxyError"
  | .unsupportedProtocol => "UnsupportedProtocol"
  | .decoding => "DecodingError"
  | .tooManyRedirects => "TooManyRedirects"
  | .transport => "TransportError"
  | .request => "RequestError"
  | .http => "HTTPError"

def all : List Fault :=
  [.connectTimeout, .readTimeout, .writeTimeout, .poolTimeout, .timeout, .connect, .read, .write, .close,
    .network, .protocol, .localProtocol, .remoteProtocol, .proxy, .unsupportedProtocol, .decoding,
    .tooManyRedirects, .transport, .request, .http]

end Exchange.Fault

/-- What comes of a request. -/
inductive Reply where
  | answered (r : Response)
  | failed (fault : Exchange.Fault) (message : String)
  | broken (b : Breakdown)
  deriving DecidableEq

namespace Reply

/-- The reply when nobody answers. -/
def nobody : Reply := .failed .connect "no scripted response"

end Reply

namespace Response

/-- The value of a header, several of one name joined by commas. Names are compared in lower case. -/
def header? (r : Response) (name : String) : Option String :=
  match (r.headers.filter fun h => String.ofList (h.1.toList.map Char.toLower) == name).map (·.2) with
  | [] => none
  | values => some (", ".intercalate values)

/-- Where an answer leads, if it leads elsewhere. -/
def location? (r : Response) : Option String :=
  if [301, 302, 303, 307, 308].contains r.status then r.header? "location" else none

end Response

/-- A text as it is shown where it has no name in front of its first colon. What stands behind the last number sign does
not count; nor does the sign, if nothing does. -/
def Url.untyped? (text : String) : Option String :=
  let cs := text.toList
  let fragment := (cs.reverse.takeWhile (· != '#')).reverse
  let front := if fragment.length = cs.length then cs else cs.take (cs.length - fragment.length - 1)
  let name := front.takeWhile fun c => c != '/' && c != ':'
  if !name.isEmpty && (front.drop name.length).head? == some ':' then none
  else some (if fragment.isEmpty then String.ofList front else text)

namespace Request

/-- The address that an answer leads to. -/
def target (request : Request) (location : Url) : Except Url.Fault Url := do
  let url ←
    if location.scheme ≠ "" ∧ location.host = "" then location.withHost request.url.host else .ok location
  let url ← if url.isAbsolute then .ok url else request.url.join url
  let fragment := Percent.decode ((request.url.fragment.getD "").toList)
  if fragment ≠ [] ∧ url.fragment.getD "" = "" then url.withFragment fragment else .ok url

/-- What becomes of an answer that leads elsewhere: there has to be such a place. -/
def lead (request : Request) (r : Response) (location : String) : Reply :=
  match Url.read location with
  | .error fault => .failed .remoteProtocol s!"Invalid URL in location header: {fault.message}."
  | .ok url =>
    match request.target url with
    | .error fault => .broken ⟨.invalidAddress, fault.message⟩
    | .ok _ => .answered r

/-- What becomes of the reply to a request before anyone sees it. With an answer comes a search for cookies, which needs
an address with a type. -/
def receive (request : Request) : Reply → Reply
  | .answered r =>
    match Url.untyped? request.url.text with
    | some shown => .broken ⟨.wrongValue, "unknown url type: " ++ Quote.quoted shown⟩
    | none => r.location?.elim (.answered r) (request.lead r)
  | reply => reply

end Request

end SignOn
