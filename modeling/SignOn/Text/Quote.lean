import SignOn.Text.Hex
import SignOn.Text.Printable
import SignOn.Text.Surrogate

/-!
Texts shown in messages: in single quotes, or in double quotes when that spares an escape, with escapes for all that
has no printed form.
-/

namespace SignOn.Quote

/-- The escape of a code point, as short as its value allows. -/
def escape (n : Nat) : List Char :=
  if n < 0x100 then '\\' :: 'x' :: Hex.padded 2 n
  else if n < 0x10000 then '\\' :: 'u' :: Hex.padded 4 n
  else '\\' :: 'U' :: Hex.padded 8 n

/-- The shown form of a character inside a kind of quotes. -/
def showChar (quote c : Char) : List Char :=
  if c = quote ∨ c = '\\' then ['\\', c]
  else if c = '\t' then ['\\', 't']
  else if c = '\n' then ['\\', 'n']
  else if c = '\r' then ['\\', 'r']
  else if Printable.isPrintable c then [c]
  else escape c.toNat

/-- The shown form of a symbol inside a kind of quotes. -/
def showSymbol (quote : Char) : Symbol → List Char
  | .char c => showChar quote c
  | .half h => escape h.code

/-- The quotes that suit a text. -/
def mark (ss : List Symbol) : Char :=
  if ss.contains (.char '\'') && !ss.contains (.char '"') then '"' else '\''

def quoted (t : Text) : String :=
  let ss := t.symbols
  String.ofList (mark ss :: (ss.flatMap (showSymbol (mark ss)) ++ [mark ss]))

end SignOn.Quote
