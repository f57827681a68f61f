import SignOn.Number.Digits

/-!
What can be wrong with a text that should be a value.
-/

namespace SignOn.Json

/-- What a reader misses or refuses at a place of the text. -/
inductive Complaint where
  | noValue
  | noName
  | noColon
  | noComma
  | trailing
  | unterminated
  | controlCharacter
  | badEscape
  | badCodeEscape
  deriving DecidableEq

def Complaint.text : Complaint → String
  | .noValue => "Expecting value"
  | .noName => "Expecting property name enclosed in double quotes"
  | .noColon => "Expecting ':' delimiter"
  | .noComma => "Expecting ',' delimiter"
  | .trailing => "Extra data"
  | .unterminated => "Unterminated string starting at"
  | .controlCharacter => "Invalid control character at"
  | .badEscape => "Invalid \\escape"
  | .badCodeEscape => "Invalid \\uXXXX escape"

/-- Why a text is no value. -/
inductive Fault where
  | malformed (complaint : Complaint) (offset : Nat)
  | tooManyDigits (count : Nat)
  | tooDeep (object : Bool)
  deriving DecidableEq

/-- The longest whole number that is read. -/
def maxDigits : Nat := 4300

/-- How deep values may nest. -/
def maxDepth : Nat := 980

def lineOf (text : List Char) (offset : Nat) : Nat :=
  (text.take offset).count '\n' + 1

def columnOf (text : List Char) (offset : Nat) : Nat :=
  ((text.take offset).reverse.takeWhile (· != '\n')).length + 1

def Fault.message (text : List Char) : Fault → String
  | .malformed complaint offset =>
    s!"{complaint.text}: line {lineOf text offset} column {columnOf text offset} (char {offset})"
  | .tooManyDigits count =>
    s!"Exceeds the limit ({maxDigits} digits) for integer string conversion: value has {count} digits; "
      ++ "use sys.set_int_max_str_digits() to increase the limit"
  | .tooDeep object =>
    "maximum recursion depth exceeded while decoding a JSON "
      ++ (if object then "object" else "array") ++ " from a unicode string"

end SignOn.Json
