import SignOn.Shape.Checked
import SignOn.Number.Lenient
import SignOn.Calendar.Liberal

/-!
Checks of single values, and of the members of an object.
-/

namespace SignOn.Field

def text : Json → Checked Text
  | .str s => .valid s
  | _ => .refuse .notText

/-- A text that holds no halves, as the settings are taken from such texts only. What becomes of one with halves there is
left out. -/
def wholeText : Json → Checked String
  | .str (.whole s) => .valid s
  | .str (.torn ..) => .refuse .unreadableText
  | _ => .refuse .notText

def optionalText : Json → Checked (Option Text)
  | .null => .valid none
  | v => some <$> text v

def optionalWholeText : Json → Checked (Option String)
  | .null => .valid none
  | v => some <$> wholeText v

/-- A floating-point number: a number, a truth value, or a text that writes one. -/
def real : Json → Checked Binary64
  | .real x => .valid x
  | .int i => if (Binary64.ofInt i).isFinite then .valid (Binary64.ofInt i) else .refuse .notReal
  | .bool b => .valid (Binary64.ofInt (if b then 1 else 0))
  | .str (.whole s) =>
    match Lenient.real? s.toList with
    | some x => .valid x
    | none => .refuse .unreadableReal
  | .str (.torn ..) => .refuse .unreadableText
  | _ => .refuse .notReal

/-- A whole number: one in any spelling, or a truth value. -/
def int : Json → Checked Int
  | .int i => .valid i
  | .bool b => .valid (if b then 1 else 0)
  | .real x =>
    if x.isFinite then
      match x.toInt? with
      | some i => .valid i
      | none => .refuse .fractionalInt
    else .refuse .notFinite
  | .str (.whole s) =>
    match Lenient.int? s.toList with
    | some i => .valid i
    | none => .refuse .unreadableInt
  | .str (.torn ..) => .refuse .unreadableText
  | _ => .refuse .notInt

def optionalMoment : Json → Checked (Option Moment)
  | .null => .valid none
  | v =>
    match Moment.ofJson v with
    | .ok m => .valid (some m)
    | .error .otherKind => .refuse .notMoment
    | .error .torn => .refuse .unreadableText
    | .error .unreadable => .refuse .unreadableMoment
    | .error .outOfRange => .refuse .momentOutOfRange

def members : Json → Checked Json.Members
  | .obj ms => .valid ms
  | _ => .refuse .notObject

/-- Items checked one by one, each at its number from a first one on. -/
def items {α : Type} (check : Json → Checked α) (first : Nat) : List Json → Checked (List α)
  | [] => .valid []
  | v :: vs => List.cons <$> (check v).within (toString first) <*> items check (first + 1) vs

def texts (otherwise : Violation.Kind) : Json → Checked (List Text)
  | .arr vs => items text 0 vs
  | _ => .refuse otherwise

/-- The first of some names that an object has, and its value. -/
def first? (ms : Json.Members) (names : List String) : Option (String × Json) :=
  names.findSome? fun (name : String) => (ms.get? name).map fun v => (name, v)

/-- A member that may be missing. -/
def optional {α : Type} (ms : Json.Members) (name : String) (otherwise : α) (check : Json → Checked α) :
    Checked α :=
  match ms.get? name with
  | none => .valid otherwise
  | some v => (check v).within name

/-- A member that must be there. -/
def required {α : Type} (ms : Json.Members) (name : String) (check : Json → Checked α) : Checked α :=
  match ms.get? name with
  | none => .invalid [⟨[name], .missing⟩]
  | some v => (check v).within name

/-- A member of several names, of which the first present one counts; it may be missing. -/
def aliased {α : Type} (ms : Json.Members) (names : List String) (otherwise : α) (check : Json → Checked α) :
    Checked α :=
  match first? ms names with
  | none => .valid otherwise
  | some (name, v) => (check v).within name

theorem text_eq_valid_iff (v : Json) (s : Text) : text v = .valid s ↔ v = .str s := by
  cases v <;> simp [text, Checked.refuse]

theorem members_eq_valid_iff (v : Json) (ms : Json.Members) : members v = .valid ms ↔ v = .obj ms := by
  cases v <;> simp [members, Checked.refuse]

end SignOn.Field
