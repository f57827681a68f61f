import SignOn.Url.Basic
import SignOn.Number.Numeral
import SignOn.Text.Percent
import SignOn.Text.Cut
import SignOn.Table

/-!
Hosts: numeric addresses of both kinds, and names.
-/

namespace SignOn.Url

/-- Whether a host is written as four numbers between points. -/
def looksNumeric (host : List Char) : Bool :=
  let parts := Text.cut '.' host
  parts.length == 4 && parts.all fun part => !part.isEmpty && part.all Char.isDigit

/-- Whether some characters are the number of a byte, without leading zeros. -/
def isOctet (cs : List Char) : Bool :=
  !cs.isEmpty && cs.all Char.isDigit && cs.length ≤ 3 && (cs.length == 1 || cs.head? != some '0') &&
    Digits.number cs ≤ 255

def isIpv4 (cs : List Char) : Bool :=
  let parts := Text.cut '.' cs
  parts.length == 4 && parts.all isOctet

/-- Whether some characters are a group of four hexadecimal digits or less. -/
def isGroup (cs : List Char) : Bool :=
  !cs.isEmpty && cs.all Hex.isDigit && cs.length ≤ 4

/-- The groups of an address, its last part written as four bytes turned into two groups. -/
def groups? (cs : List Char) : Option (List (List Char)) :=
  let parts := Text.cut ':' cs
  match parts.getLast? with
  | some last =>
    if parts.length < 3 then none
    else if last.contains '.' then
      if isIpv4 last then some (parts.dropLast ++ [['0'], ['0']]) else none
    else some parts
  | none => none

/-- Whether the groups of an address fit together: eight of them, or fewer around one gap. A gap at an end is two empty
groups there. -/
def fitTogether (parts : List (List Char)) : Bool :=
  let gaps := (List.range parts.length).filter fun i =>
    0 < i && i + 1 < parts.length && (parts.getD i []).isEmpty
  parts.length ≤ 9 &&
    match gaps with
    | [] => parts.length == 8 && parts.all isGroup
    | [gap] =>
      let before := parts.take gap
      let behind := parts.drop (gap + 1)
      let high := if before = [[]] then [] else before
      let low := if behind = [[]] then [] else behind
      high.all isGroup && low.all isGroup && high.length + low.length < 8
    | _ => false

/-- Whether some characters are an address of eight groups, with or without a zone behind a percent sign. A zone outside
ASCII is none: it cannot be sent with the host. -/
def isIpv6 (cs : List Char) : Bool :=
  let address := cs.takeWhile (· != '%')
  let zone := cs.drop (address.length + 1)
  let zoneFits := address.length == cs.length || (!zone.isEmpty && !zone.contains '%')
  !cs.contains '/' && cs.all (·.toNat < 0x80) && zoneFits && ((groups? address).any fitTogether)

/-- The characters of a name that are kept. -/
def keptInName (c : Char) : Bool :=
  Percent.unreserved c || "!$&'()*+,;=\"`\x7b\x7d%|\\".toList.contains c

/-- The normal form of a host. Names outside ASCII have none here: they are read by a library of their own. -/
def readHost (cs : List Char) : Except Fault String :=
  if cs.isEmpty then .ok ""
  else if looksNumeric cs then
    if isIpv4 cs then .ok (String.ofList cs) else .error (.invalidIpv4 (String.ofList cs))
  else if cs.head? = some '[' ∧ cs.getLast? = some ']' then
    let inner := (cs.drop 1).dropLast
    if isIpv6 inner then .ok (String.ofList inner) else .error (.invalidIpv6 (String.ofList cs))
  else if cs.all (·.toNat < 0x80) then
    .ok (String.ofList (Percent.encodeAround keptInName (cs.map Char.toLower)))
  else .error (.invalidName (String.ofList cs))

/-- The port that a scheme stands for. -/
def defaultPort? (scheme : List Char) : Option Int :=
  let ports : Table Int := [("ftp", 21), ("http", 80), ("https", 443), ("ws", 80), ("wss", 443)]
  ports.get? (String.ofList scheme)

/-- The port of an address; the one that its scheme stands for anyway is left out. -/
def readPort (scheme port : List Char) : Except Fault (Option Int) :=
  if port.isEmpty then .ok none
  else
    match Numeral.int? port with
    | none => .error (.invalidPort (String.ofList port))
    | some n => .ok (if defaultPort? scheme = some n then none else some n)

end SignOn.Url
