import SignOn.Text.Cut
import SignOn.Table

/-!
Files of variables. A line gives a name a value, which stands bare up to the end of its line or in quotes, where it may
go on over several lines. A number sign starts a comment. A reference in a value stands for the value of a name that is
known by then. Lines that cannot be read are passed over.
-/

namespace SignOn.EnvFile

/-- White space that does not end a line. -/
def isInline (c : Char) : Bool :=
  Blank.isBlank c && c != '\n'

/-- All line ends written as line feeds. -/
def unifyLines : List Char → List Char
  | [] => []
  | '\r' :: '\n' :: cs => '\n' :: unifyLines cs
  | '\r' :: cs => '\n' :: unifyLines cs
  | c :: cs => c :: unifyLines cs

/-- What follows the line that the characters begin with. -/
def skipLine (cs : List Char) : List Char :=
  (cs.dropWhile (· != '\n')).drop 1

/-- What follows the end of a line, which may come after white space and a comment. -/
def endLine? (cs : List Char) : Option (List Char) :=
  match cs.dropWhile isInline with
  | [] => some []
  | '\n' :: rest => some rest
  | '#' :: rest => some (skipLine rest)
  | _ => none

/-- Cuts the text behind an opening quote at the first closing one that does not follow a backslash. -/
def cutAtQuote? (quote before : Char) : List Char → Option (List Char × List Char)
  | [] => none
  | c :: cs =>
    if c = quote ∧ before ≠ '\\' then some ([], cs)
    else (cutAtQuote? quote c cs).map fun (inner, rest) => (c :: inner, rest)

/-- Cuts a text at the last occurrence of a character. -/
def cutAtLast? (last : Char) (cs : List Char) : Option (List Char × List Char) :=
  let rest := (cs.reverse.takeWhile (· != last)).reverse
  if rest.length < cs.length then some (cs.take (cs.length - rest.length - 1), rest) else none

/-- Cuts the text behind an opening quote at the one that closes it. Where all follow a backslash, the last one closes. -/
def closeQuote? (quote : Char) (cs : List Char) : Option (List Char × List Char) :=
  (cutAtQuote? quote quote cs).or (cutAtLast? quote cs)

/-- What a backslash and a letter stand for in single quotes. -/
def escapeInSingle? : Char → Option Char
  | '\\' => some '\\'
  | '\'' => some '\''
  | _ => none

/-- What a backslash and a letter stand for in double quotes. -/
def escapeInDouble? : Char → Option Char
  | '\\' => some '\\'
  | '\'' => some '\''
  | '"' => some '"'
  | 'a' => some '\x07'
  | 'b' => some '\x08'
  | 'f' => some '\x0c'
  | 'n' => some '\n'
  | 'r' => some '\r'
  | 't' => some '\t'
  | 'v' => some '\x0b'
  | _ => none

/-- A quoted text with its escapes undone. -/
def unescape (escape? : Char → Option Char) : List Char → List Char
  | '\\' :: c :: cs =>
    match escape? c with
    | some e => e :: unescape escape? cs
    | none => '\\' :: unescape escape? (c :: cs)
  | c :: cs => c :: unescape escape? cs
  | [] => []

/-- What stands in front of a number sign that follows white space. -/
def beforeComment : List Char → List Char
  | [] => []
  | c :: cs => if Blank.isBlank c ∧ cs.head? = some '#' then [] else c :: beforeComment cs

/-- A bare value: its line without a comment and without white space at the end. -/
def bareValue (line : List Char) : List Char :=
  ((beforeComment line).reverse.dropWhile Blank.isBlank).reverse

/-- The value that the characters begin with, and what follows it. -/
def takeValue? : List Char → Option (List Char × List Char)
  | '\'' :: cs => (closeQuote? '\'' cs).map fun (inner, rest) => (unescape escapeInSingle? inner, rest)
  | '"' :: cs => (closeQuote? '"' cs).map fun (inner, rest) => (unescape escapeInDouble? inner, rest)
  | cs =>
    let line := cs.takeWhile (· != '\n')
    some (bareValue line, cs.drop line.length)

/-- The name that the characters begin with, and what follows it. -/
def takeName? : List Char → Option (List Char × List Char)
  | '\'' :: cs =>
    let name := cs.takeWhile (· != '\'')
    match cs.drop name.length with
    | _ :: rest => if name.isEmpty then none else some (name, rest)
    | [] => none
  | cs =>
    let name := cs.takeWhile fun c => c != '=' && c != '#' && !Blank.isBlank c
    if name.isEmpty then none else some (name, cs.drop name.length)

/-- What follows the word that may announce a variable. -/
def skipExport (cs : List Char) : List Char :=
  let word := "export".toList
  if word.isPrefixOf cs && (cs.drop word.length).head?.any isInline then
    (cs.drop word.length).dropWhile isInline
  else cs

/-- A name and its value, which is missing where there is no equals sign. -/
abbrev Entry := String × Option String

/-- The value of a name and what follows it, or where reading it fails. -/
def assigned (cs : List Char) : Except (List Char) (Option (List Char) × List Char) :=
  match cs.dropWhile isInline with
  | '=' :: rest =>
    let rest := rest.dropWhile isInline
    match takeValue? rest with
    | some (value, rest) => .ok (some value, rest)
    | none => .error rest
  | rest => .ok (none, rest)

/-- The entry of the line that the characters begin with, if there is one, and what follows. -/
def statement (cs : List Char) : Option Entry × List Char :=
  let cs := skipExport cs
  if cs.head? = some '#' then (none, skipLine cs)
  else
    match takeName? cs with
    | none => (none, skipLine cs)
    | some (name, rest) =>
      match assigned rest with
      | .error rest => (none, skipLine rest)
      | .ok (value, rest) =>
        match endLine? rest with
        | none => (none, skipLine rest)
        | some rest => (some (String.ofList name, value.map String.ofList), rest)

/-- The entries of a text in order, references not yet followed. -/
def statements (cs : List Char) : List Entry :=
  match cs.dropWhile Blank.isBlank with
  | [] => []
  | c :: rest =>
    let (entry, after) := statement (c :: rest)
    if after.length < cs.length then entry.toList ++ statements after else entry.toList
termination_by cs.length

/-- A reference behind its opening brace: the name, the value to take where the name is unknown, and the length of the
whole. -/
def reference? (cs : List Char) : Option (String × List Char × Nat) :=
  let name := cs.takeWhile fun c => c != '\x7d' && c != ':'
  match cs.drop name.length with
  | '\x7d' :: _ => some (String.ofList name, [], name.length + 1)
  | ':' :: '-' :: rest =>
    let otherwise := rest.takeWhile (· != '\x7d')
    if otherwise.length < rest.length then
      some (String.ofList name, otherwise, name.length + otherwise.length + 3)
    else none
  | _ => none

/-- A value with its references followed, after skipping so many characters. -/
def expand (known : String → Option String) (skip : Nat) : List Char → List Char
  | [] => []
  | c :: cs =>
    match skip with
    | skip + 1 => expand known skip cs
    | 0 =>
      if c = '$' ∧ cs.head? = some '\x7b' then
        match reference? (cs.drop 1) with
        | some (name, otherwise, length) =>
          ((known name).elim otherwise (·.toList)) ++ expand known (length + 1) cs
        | none => c :: expand known 0 cs
      else c :: expand known 0 cs

/-- Follows the references of an entry. Earlier entries count before the environment; one without a value counts as
empty. -/
def resolve (environment : Table String) (earlier : Table (Option String)) (entry : Entry) : Entry :=
  let known (name : String) : Option String :=
    match earlier.get? name with
    | some value => some (value.getD "")
    | none => environment.last? name
  (entry.1, entry.2.map fun value => String.ofList (expand known 0 value.toList))

/-- The entries of a file, each name once. -/
def read (environment : Table String) (text : String) : Table (Option String) :=
  (statements (unifyLines text.toList)).foldl
    (fun entries entry =>
      let (name, value) := resolve environment entries entry
      entries.put name value)
    []

end SignOn.EnvFile
