import SignOn.Site
import SignOn.Log.Template

/-!
Logging by name: a logger, a way of logging, an event and fields, and perhaps values to fill into the event.
-/

namespace SignOn.Log

/-- The names that a record's own arguments are passed by, and that no field may have. -/
def argumentNames : List Text :=
  ["self", "event"]

/-- The event with its values filled in. A single object serves by its members, unless it is empty or the journal has no
set-up. -/
def filled (journal : Journal) (event : String) (values : List Json) : Except Trouble Text :=
  match journal, values with
  | _, [] => .ok event
  | .unconfigured, _ => Template.fill event values
  | _, [.obj []] => Template.fill event values
  | _, [.obj members] => Template.fillNamed event members
  | _, _ => Template.fill event values

/-- Writes a record in a way of logging. -/
def log (logger method event : String) (values : List Json) (fields : Json.Members) :
    Effect (Except Trouble Unit) := fun site =>
  if fields.any fun m => argumentNames.contains m.1 then
    (.error (.broken .wrongType "a field has the name of an argument"), site)
  else
    match Level.ofMethod? method with
    | none => (.error (.broken .missingAttribute method), site)
    | some level =>
      if site.journal.works level then
        match filled site.journal event values with
        | .error trouble => (.error trouble, site)
        | .ok event => (.ok (), site.record ⟨level, logger, event, fields⟩)
      else (.ok (), site)

end SignOn.Log
