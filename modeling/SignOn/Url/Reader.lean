import SignOn.Url.Host

/-!
Reading an address: the text is cut into scheme, authority, path, query and fragment, and each part is put into its
normal form.
-/

namespace SignOn.Url

/-- Whether a character is ASCII and has a printed form. -/
def isPlain (c : Char) : Bool :=
  0x20 ≤ c.toNat && c.toNat < 0x7F

def keptInPath (c : Char) : Bool :=
  isPlain c && !" \"#<>?`\x7b\x7d".toList.contains c

def keptInQuery (c : Char) : Bool :=
  isPlain c && !" \"#<>".toList.contains c

def keptInFragment (c : Char) : Bool :=
  isPlain c && !" \"<>`".toList.contains c

def keptInUserinfo (c : Char) : Bool :=
  keptInPath c && !"/;=@[\\]^|".toList.contains c

/-- Takes one segment onto the segments so far, last first. A dot is dropped; two dots take the last segment away,
unless there is none but an empty one. -/
def pushSegment (done : List (List Char)) (segment : List Char) : List (List Char) :=
  if segment = ['.'] then done
  else if segment = ['.', '.'] then if done = [[]] then done else done.drop 1
  else segment :: done

def removeDots (path : List Char) : List Char :=
  let segments := Text.cut '/' path
  if segments.contains ['.'] || segments.contains ['.', '.'] then
    ['/'].intercalate (segments.foldl pushSegment []).reverse
  else path

/-- The parts of an address before they are put into normal form. -/
structure Parts where
  scheme : List Char
  authority : List Char
  path : List Char
  query : Option (List Char)
  fragment : Option (List Char)
  deriving DecidableEq

/-- Whether a character may stand in a scheme behind its first letter. -/
def isSchemeChar (c : Char) : Bool :=
  c.isAlphanum || c == '+' || c == '.' || c == '-'

/-- The scheme in front of a text, and what follows its colon. -/
def cutScheme (cs : List Char) : List Char × List Char :=
  let scheme := cs.takeWhile isSchemeChar
  match cs.drop scheme.length with
  | ':' :: rest => if scheme.head?.all Char.isAlpha then (scheme, rest) else ([], cs)
  | _ => ([], cs)

/-- The authority in front of a text, and what follows it. -/
def cutAuthority (cs : List Char) : List Char × List Char :=
  match cs with
  | '/' :: '/' :: rest => rest.span fun c => c != '/' && c != '?' && c != '#'
  | _ => ([], cs)

def Parts.ofText (cs : List Char) : Parts :=
  let (scheme, cs) := cutScheme cs
  let (authority, cs) := cutAuthority cs
  let (path, cs) := cs.span fun c => c != '?' && c != '#'
  let (query, cs) :=
    match cs with
    | '?' :: rest =>
      let (query, cs) := rest.span (· != '#')
      (some query, cs)
    | _ => (none, cs)
  let fragment :=
    match cs with
    | '#' :: rest => some rest
    | _ => none
  ⟨scheme, authority, path, query, fragment⟩

/-- The user information, host and port of an authority. The user information ends at the last at sign; a host in
brackets ends at the last closing one. -/
def cutAuthorityParts (authority : List Char) : List Char × List Char × List Char :=
  let behind := (authority.reverse.takeWhile (· != '@')).reverse
  let userinfo := authority.take (authority.length - behind.length - 1)
  let bracketed := (behind.reverse.dropWhile (· != ']')).reverse
  let host :=
    if behind.head? = some '[' ∧ !bracketed.isEmpty then bracketed
    else behind.takeWhile fun c => c != ':' && c != '@'
  match behind.drop host.length with
  | ':' :: port => (userinfo, host, port)
  | port => (userinfo, host, port)

/-- Refuses a path that cannot follow its scheme and authority. -/
def checkPath (hasScheme hasAuthority : Bool) (path : List Char) : Except Fault Unit :=
  if hasAuthority then
    if path.isEmpty || path.head? == some '/' then .ok () else .error .pathWithoutSlash
  else if hasScheme then .ok ()
  else
    match path with
    | '/' :: '/' :: _ => .error .pathOfTwoSlashes
    | ':' :: _ => .error .pathOfColon
    | _ => .ok ()

def ofParts (parts : Parts) : Except Fault Url := do
  let (userinfo, host, port) := cutAuthorityParts parts.authority
  let userinfo := Percent.encodeAround keptInUserinfo userinfo
  let host ← readHost host
  let port ← readPort parts.scheme port
  let hasScheme := !parts.scheme.isEmpty
  let hasAuthority := !userinfo.isEmpty || host != "" || port.isSome
  checkPath hasScheme hasAuthority parts.path
  let path := if hasScheme || hasAuthority then removeDots parts.path else parts.path
  return {
    scheme := String.ofList (parts.scheme.map Char.toLower)
    userinfo := String.ofList userinfo
    host, port
    path := String.ofList (Percent.encodeAround keptInPath path)
    query := parts.query.map fun q => String.ofList (Percent.encodeAround keptInQuery q)
    fragment := parts.fragment.map fun f => String.ofList (Percent.encodeAround keptInFragment f) }

/-- The first ASCII character without a printed form, and its offset. -/
def unprintable? (cs : List Char) : Option (Char × Nat) :=
  let bad (c : Char) : Bool := c.toNat < 0x80 && !isPlain c
  (cs.find? bad).map fun c => (c, cs.findIdx bad)

theorem unprintable?_of_isPlain {cs : List Char} (h : ∀ c ∈ cs, isPlain c = true) : unprintable? cs = none := by
  rw [unprintable?, Option.map_eq_none_iff, List.find?_eq_none]
  intro c hc
  simp [h c hc]

def read (text : String) : Except Fault Url :=
  let cs := text.toList
  if maxLength < cs.length then .error .tooLong
  else
    match unprintable? cs with
    | some (c, offset) => .error (.unprintable c offset)
    | none => ofParts (Parts.ofText cs)

/-- Refuses a part that is too long or unprintable. -/
def checkPart (part : Part) (cs : List Char) : Except Fault Unit :=
  if maxLength < cs.length then .error (.partTooLong part)
  else
    match unprintable? cs with
    | some (c, offset) => .error (.partUnprintable part c offset)
    | none => .ok ()

/-- The same address with another query. Its parts are read again, so that the port a scheme stands for is left out
even where the scheme was first written in capitals. -/
def withQuery (u : Url) (query : Option String) : Except Fault Url := do
  let parts : Parts :=
    ⟨u.scheme.toList, u.authority.toList, u.path.toList, query.map (·.toList), u.fragment.map (·.toList)⟩
  checkPart .scheme parts.scheme
  checkPart .authority parts.authority
  checkPart .path parts.path
  (parts.query.map (checkPart .query)).getD (.ok ())
  (parts.fragment.map (checkPart .fragment)).getD (.ok ())
  ofParts parts

/-- The user name and password in front of the host, escapes undone. -/
def credentials (u : Url) : String × String :=
  let cs := u.userinfo.toList
  let decode (cs : List Char) : String := String.ofList (Percent.decode cs)
  (decode (cs.takeWhile (· != ':')), decode ((cs.dropWhile (· != ':')).drop 1))

end SignOn.Url
