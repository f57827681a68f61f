import SignOn.Url.Reader
import SignOn.Text.Form

/-!
Addresses made of others: with another parameter in the query, or on a server that is known already.
-/

namespace SignOn.Url

def parameters (u : Url) : Table String :=
  Form.decode (u.query.getD "").toList

/-- The same address with one value for a parameter, in place of all that it had. -/
def withParameter (u : Url) (name value : String) : Except Fault Url :=
  let pairs := Form.ungroup ((Form.group u.parameters).put name [value])
  u.withQuery (some (String.ofList (Form.encode pairs)))

/-- The name of the server that requests are sent to. -/
def serverName : String := "testserver"

def isAbsolute (u : Url) : Bool :=
  u.scheme != "" && u.host != ""

/-- The address of a path on the server. Slashes in front of it count as one. -/
def atServer (path : String) : Except Fault Url := do
  let u ← read path
  if u.isAbsolute then return u
  else
    let own := '/' :: u.path.toList.dropWhile (· = '/')
    ofParts ⟨"http".toList, serverName.toList, own, u.query.map (·.toList), none⟩

end SignOn.Url
