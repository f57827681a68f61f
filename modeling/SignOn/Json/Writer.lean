import SignOn.Json.Basic
import SignOn.Text.Refusal

/-!
Writing a value: no space between tokens, symbols outside ASCII as they are. A value that holds halves of pairs is written
like any other, but there are no bytes for what is written.
-/

namespace SignOn.Json

/-- The written form of a character inside quotes. -/
def escape (c : Char) : List Char :=
  if c = '"' then ['\\', '"']
  else if c = '\\' then ['\\', '\\']
  else if c = '\n' then ['\\', 'n']
  else if c = '\r' then ['\\', 'r']
  else if c = '\t' then ['\\', 't']
  else if c = '\x08' then ['\\', 'b']
  else if c = '\x0c' then ['\\', 'f']
  else if c.toNat < 0x20 then '\\' :: 'u' :: Hex.padded 4 c.toNat
  else [c]

def escapeSymbol : Symbol → List Symbol
  | .char c => (escape c).map .char
  | .half h => [.half h]

def quotedSymbols (t : Text) : List Symbol :=
  .char '"' :: (t.symbols.flatMap escapeSymbol ++ [.char '"'])

/-- How numbers are written: as usual, with names for what is not finite. -/
def numberLayout : Binary64.Layout :=
  { Binary64.Layout.plain with infinity := "Infinity", notANumber := "NaN" }

mutual

/-- The symbols of a value. -/
def symbols : Json → List Symbol
  | .null => "null".toList.map .char
  | .bool b => (if b then "true" else "false").toList.map .char
  | .int i => (Digits.ofInt i).map .char
  | .real x => (numberLayout.write x).map .char
  | .str s => quotedSymbols s
  | .arr items => .char '[' :: (itemSymbols items ++ [.char ']'])
  | .obj members => .char '\x7b' :: (memberSymbols members ++ [.char '\x7d'])

def itemSymbols : List Json → List Symbol
  | [] => []
  | [v] => symbols v
  | v :: w :: rest => symbols v ++ .char ',' :: itemSymbols (w :: rest)

def memberSymbols : Members → List Symbol
  | [] => []
  | [(name, v)] => quotedSymbols name ++ .char ':' :: symbols v
  | (name, v) :: m :: rest => quotedSymbols name ++ .char ':' :: (symbols v ++ .char ',' :: memberSymbols (m :: rest))

end

/-- The text of a value. -/
def text (v : Json) : Text :=
  .ofSymbols (symbols v)

/-- The words of refusal for a value that has no bytes. -/
def refusal? (v : Json) : Option String :=
  Utf8.refusal? (symbols v)

/-- The characters of a value, with replacements for halves. -/
def write (v : Json) : List Char :=
  (symbols v).map Symbol.shown

def quoted (t : Text) : List Char :=
  (quotedSymbols t).map Symbol.shown

def writeItems (items : List Json) : List Char :=
  (itemSymbols items).map Symbol.shown

def writeMembers (members : Members) : List Char :=
  (memberSymbols members).map Symbol.shown

theorem quoted_whole (s : String) : quoted s = '"' :: (s.toList.flatMap escape ++ ['"']) := by
  have hescape : (s.toList.map Symbol.char).flatMap escapeSymbol = (s.toList.flatMap escape).map .char := by
    rw [List.flatMap_map, List.map_flatMap]
    rfl
  rw [quoted, quotedSymbols, Text.symbols_whole, hescape, List.map_cons, List.map_append, Symbol.map_shown_chars]
  rfl

section

variable (v w : Json) (items : List Json) (name : Text) (members : Members)

theorem write_str : write (.str name) = quoted name := rfl

theorem write_arr : write (.arr items) = '[' :: (writeItems items ++ [']']) := by
  simp [write, writeItems, symbols, Symbol.shown]

theorem write_obj : write (.obj members) = '\x7b' :: (writeMembers members ++ ['\x7d']) := by
  simp [write, writeMembers, symbols, Symbol.shown]

theorem writeItems_singleton : writeItems [v] = write v := rfl

theorem writeItems_cons_cons : writeItems (v :: w :: items) = write v ++ ',' :: writeItems (w :: items) := by
  simp [write, writeItems, itemSymbols, Symbol.shown]

theorem writeMembers_singleton : writeMembers [(name, v)] = quoted name ++ ':' :: write v := by
  simp [write, writeMembers, quoted, memberSymbols, Symbol.shown]

theorem writeMembers_cons_cons (m : Text × Json) :
    writeMembers ((name, v) :: m :: members) = quoted name ++ ':' :: (write v ++ ',' :: writeMembers (m :: members)) := by
  simp [write, writeMembers, quoted, memberSymbols, Symbol.shown]

end

end SignOn.Json
