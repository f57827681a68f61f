import SignOn.Text.Percent
import SignOn.Text.Cut
import SignOn.Table

/-!
Form text: names and values joined by `=` and `&`, with spaces written as plus signs.
-/

namespace SignOn.Form

def decodePart (cs : List Char) : String :=
  String.ofList (Percent.decode (cs.map fun c => if c = '+' then ' ' else c))

def encodePart (s : String) : List Char :=
  s.toList.flatMap fun c => if c = ' ' then ['+'] else Percent.encodeChar Percent.unreserved c

/-- The name and value of one piece; without an equals sign the value is empty. -/
def decodePair (cs : List Char) : String × String :=
  (decodePart (cs.takeWhile (· != '=')), decodePart ((cs.dropWhile (· != '=')).drop 1))

/-- The pairs of a form text, in order. Empty pieces count for nothing. -/
def decode (cs : List Char) : Table String :=
  ((Text.cut '&' cs).filter (!·.isEmpty)).map decodePair

def encode (pairs : Table String) : List Char :=
  ['&'].intercalate (pairs.map fun p => encodePart p.1 ++ '=' :: encodePart p.2)

/-- The values under each name, names in the order of their first occurrence. -/
def group (pairs : Table String) : Table (List String) :=
  pairs.foldl (fun groups p => groups.put p.1 ((groups.get? p.1).getD [] ++ [p.2])) []

/-- Groups as plain pairs again. -/
def ungroup (groups : Table (List String)) : Table String :=
  groups.flatMap fun g => g.2.map fun value => (g.1, value)

end SignOn.Form
