import SignOn.Json.Basic
import SignOn.Text.Quote

/-!
Values shown inside messages. A text stands for itself; inside arrays and objects it is quoted.
-/

namespace SignOn.Json

mutual

/-- A value as part of a larger one. -/
def shown : Json → List Char
  | .null => "None".toList
  | .bool b => if b then "True".toList else "False".toList
  | .int i => Digits.ofInt i
  | .real x => Binary64.Layout.plain.write x
  | .str s => (Quote.quoted s).toList
  | .arr items => '[' :: (shownItems items ++ [']'])
  | .obj members => '\x7b' :: (shownMembers members ++ ['\x7d'])

def shownItems : List Json → List Char
  | [] => []
  | [v] => shown v
  | v :: w :: rest => shown v ++ ',' :: ' ' :: shownItems (w :: rest)

def shownMembers : Members → List Char
  | [] => []
  | [(name, v)] => (Quote.quoted name).toList ++ ':' :: ' ' :: shown v
  | (name, v) :: m :: rest =>
    (Quote.quoted name).toList ++ ':' :: ' ' :: (shown v ++ ',' :: ' ' :: shownMembers (m :: rest))

end

def display : Json → Text
  | .str s => s
  | v => String.ofList (shown v)

end SignOn.Json
