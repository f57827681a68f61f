import SignOn.Url.Derived

/-!
Addresses that are given relative to another one: with its host where they have none, or joined with it as texts. Here
what is missing in an address and what is empty are the same, and the last segment of a path may have parameters behind
a semicolon.
-/

namespace SignOn.Url

def parts (u : Url) : Parts :=
  ⟨u.scheme.toList, u.authority.toList, u.path.toList, u.query.map (·.toList), u.fragment.map (·.toList)⟩

/-- Refuses parts of which one is too long or unprintable. -/
def Parts.check (parts : Parts) : Except Fault Unit := do
  checkPart .scheme parts.scheme
  checkPart .authority parts.authority
  checkPart .path parts.path
  checkPart .query (parts.query.getD [])
  checkPart .fragment (parts.fragment.getD [])

/-- The same address on another host. -/
def withHost (u : Url) (host : String) : Except Fault Url := do
  u.parts.check
  checkPart .host ({ u with host, port := none } : Url).netloc.toList
  ofParts { u.parts with authority := ({ u with host } : Url).authority.toList }

/-- The same address with another fragment. -/
def withFragment (u : Url) (fragment : List Char) : Except Fault Url := do
  let parts := { u.parts with fragment := some fragment }
  parts.check
  ofParts parts

namespace Join

/-- The parts of an address to be joined. -/
structure Pieces where
  scheme : List Char
  authority : List Char
  path : List Char
  parameters : List Char
  query : List Char
  fragment : List Char
  deriving DecidableEq

def schemes (names : List String) : List (List Char) :=
  [] :: names.map (·.toList)

/-- The schemes with addresses that others may be given relative to. All of them have hosts. -/
def relative : List (List Char) :=
  schemes ["ftp", "http", "gopher", "nntp", "imap", "wais", "file", "https", "shttp", "mms", "prospero", "rtsp", "rtsps",
    "rtspu", "sftp", "svn", "svn+ssh", "ws", "wss"]

/-- The schemes with parameters in their paths. -/
def parametric : List (List Char) :=
  schemes ["ftp", "hdl", "prospero", "http", "imap", "https", "shttp", "rtsp", "rtsps", "rtspu", "sip", "sips", "mms",
    "sftp", "tel"]

/-- A path without the parameters of its last segment, and these. -/
def cutParameters (path : List Char) : List Char × List Char :=
  let last := (path.reverse.takeWhile (· != '/')).reverse
  let name := last.takeWhile (· != ';')
  (path.take (path.length - last.length) ++ name, last.drop (name.length + 1))

/-- The pieces of a text, with a scheme for one that has none. -/
def Pieces.ofText (scheme : List Char) (text : List Char) : Pieces :=
  let parts := Parts.ofText text
  let scheme := if parts.scheme.isEmpty then scheme else parts.scheme
  let (path, parameters) := if parametric.contains scheme then cutParameters parts.path else (parts.path, [])
  ⟨scheme, parts.authority, path, parameters, parts.query.getD [], parts.fragment.getD []⟩

/-- The text of pieces whose scheme is one with hosts. -/
def Pieces.text (p : Pieces) : List Char :=
  let part (mark : List Char) (cs : List Char) : List Char := if cs.isEmpty then [] else mark ++ cs
  let path := p.path ++ part [';'] p.parameters
  let hasHost := !p.authority.isEmpty || !p.scheme.isEmpty || "//".toList.isPrefixOf path
  let path :=
    if hasHost then
      "//".toList ++ p.authority ++ (if path.isEmpty || path.head? == some '/' then path else '/' :: path)
    else path
  (if p.scheme.isEmpty then [] else p.scheme ++ [':']) ++ path ++ part ['?'] p.query ++ part ['#'] p.fragment

/-- Takes one segment onto the segments so far, last first. -/
def pushSegment (done : List (List Char)) (segment : List Char) : List (List Char) :=
  if segment = ['.'] then done else if segment = ['.', '.'] then done.drop 1 else segment :: done

/-- A path taken from a base. -/
def path (base own : List Char) : List Char :=
  let cut := Text.cut '/' own
  let segments :=
    if own.head? = some '/' then cut
    else
      let stem := Text.cut '/' base
      let all := (if stem.getLast? = some [] then stem else stem.dropLast) ++ cut
      all.take 1 ++ ((all.drop 1).dropLast.filter (!·.isEmpty)) ++ (all.drop 1).drop (all.length - 2)
  let done := segments.foldl pushSegment []
  let endsInDots := segments.getLast? = some ['.'] ∨ segments.getLast? = some ['.', '.']
  let joined := ['/'].intercalate (if endsInDots then [] :: done else done).reverse
  if joined.isEmpty then ['/'] else joined

/-- The text of an address that is given relative to another one. -/
def text (base own : List Char) : List Char :=
  if own.isEmpty then base
  else
    let b := Pieces.ofText [] base
    let o := Pieces.ofText b.scheme own
    if o.scheme ≠ b.scheme ∨ !relative.contains o.scheme then own
    else if !o.authority.isEmpty then o.text
    else if o.path.isEmpty ∧ o.parameters.isEmpty then
      Pieces.text
        { o with
          authority := b.authority, path := b.path, parameters := b.parameters
          query := if o.query.isEmpty then b.query else o.query }
    else Pieces.text { o with authority := b.authority, path := path b.path o.path }

end Join

/-- An address relative to another one. -/
def join (base own : Url) : Except Fault Url :=
  read (String.ofList (Join.text base.text.toList own.text.toList))

end SignOn.Url
