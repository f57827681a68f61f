import SignOn.Number.Digits
import SignOn.Text.Quote

/-!
Web addresses in their normal form, and the ways in which a text can fail to be one.
-/

namespace SignOn

/-- An address. Its parts are as they appear in its text, save for the brackets of a host with colons. -/
structure Url where
  scheme : String
  userinfo : String
  host : String
  port : Option Int
  path : String
  query : Option String
  fragment : Option String
  deriving DecidableEq

inductive Url.Part where
  | scheme
  | authority
  | path
  | query
  | fragment
  | host
  deriving DecidableEq

/-- Why a text is no address. -/
inductive Url.Fault where
  | tooLong
  | unprintable (c : Char) (offset : Nat)
  | partTooLong (part : Url.Part)
  | partUnprintable (part : Url.Part) (c : Char) (offset : Nat)
  | partInvalid (part : Url.Part)
  | invalidIpv4 (host : String)
  | invalidIpv6 (host : String)
  | invalidName (host : String)
  | invalidPort (port : String)
  | pathWithoutSlash
  | pathOfTwoSlashes
  | pathOfColon
  deriving DecidableEq

namespace Url

/-- The longest text, and the longest part, of an address. -/
def maxLength : Nat := 65536

def Part.name : Part → String
  | .scheme => "scheme"
  | .authority => "authority"
  | .path => "path"
  | .query => "query"
  | .fragment => "fragment"
  | .host => "host"

private def shown (c : Char) : String :=
  Quote.quoted (String.singleton c)

def Fault.message : Fault → String
  | .tooLong => "URL too long"
  | .unprintable c offset =>
    s!"Invalid non-printable ASCII character in URL, {shown c} at position {offset}."
  | .partTooLong part => s!"URL component '{part.name}' too long"
  | .partUnprintable part c offset =>
    s!"Invalid non-printable ASCII character in URL {part.name} component, {shown c} at position {offset}."
  | .partInvalid part => s!"Invalid URL component '{part.name}'"
  | .invalidIpv4 host => s!"Invalid IPv4 address: {Quote.quoted host}"
  | .invalidIpv6 host => s!"Invalid IPv6 address: {Quote.quoted host}"
  | .invalidName host => s!"Invalid IDNA hostname: {Quote.quoted host}"
  | .invalidPort port => s!"Invalid port: {Quote.quoted port}"
  | .pathWithoutSlash => "For absolute URLs, path must be empty or begin with '/'"
  | .pathOfTwoSlashes => "Relative URLs cannot have a path starting with '//'"
  | .pathOfColon => "Relative URLs cannot have a path starting with ':'"

/-- Host and port. -/
def netloc (u : Url) : String :=
  (if u.host.toList.contains ':' then "[" ++ u.host ++ "]" else u.host) ++
    match u.port with
    | none => ""
    | some port => ":" ++ String.ofList (Digits.ofInt port)

/-- What stands between the two slashes and the path. -/
def authority (u : Url) : String :=
  (if u.userinfo = "" then "" else u.userinfo ++ "@") ++ u.netloc

def text (u : Url) : String :=
  (if u.scheme = "" then "" else u.scheme ++ ":") ++
    (if u.authority = "" then "" else "//" ++ u.authority) ++ u.path ++
    (u.query.elim "" ("?" ++ ·)) ++ (u.fragment.elim "" ("#" ++ ·))

end Url

end SignOn
