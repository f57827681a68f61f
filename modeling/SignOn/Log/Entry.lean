import SignOn.Log.Level
import SignOn.Log.Correlation
import SignOn.Failure.Trouble

/-!
Log records. A record says what happened, where and how gravely, with fields of its own; on the way out it is stamped
with the service it belongs to and with the correlation context.
-/

namespace SignOn.Log

structure Entry where
  level : Level
  logger : String
  event : Text
  fields : Json.Members
  deriving DecidableEq

/-- The name in front of the first point of a logger's name, if there is a point. -/
def serviceOf? (logger : Text) : Option Text :=
  let ss := logger.symbols
  if ss.contains (.char '.') then some (.ofSymbols (ss.takeWhile (· != .char '.'))) else none

/-- Writes the service of a logger into the members of a record. -/
def stampService (logger : Text) (ms : Json.Members) : Json.Members :=
  match serviceOf? logger with
  | none => ms
  | some service => ms.put "service" (.str service)

/-- Writes the service into members that name their logger themselves. A logger that is no text has no name to look
into. -/
def stampOwnService (ms : Json.Members) : Except Trouble Json.Members :=
  match ms.get? "logger" with
  | none => .ok ms
  | some (.str logger) => .ok (stampService logger ms)
  | some (.arr items) =>
    if items.contains (.str ".") then .error (.broken .missingAttribute "a logger is no list") else .ok ms
  | some (.obj members) =>
    if Table.has members "." then .error (.broken .missingAttribute "a logger is no object") else .ok ms
  | some _ => .error (.broken .wrongType "a logger is a text")

/-- The names of fields that steer the writing and are not written, or give way to the time of writing. -/
def reserved : List Text :=
  ["exc_info", "stack_info", "timestamp"]

/-- The name of a logger in records: the one that has none is the root of all loggers. -/
def loggerName (logger : String) : String :=
  if logger = "" then "root" else logger

/-- The members of a record as it is written. Level and logger count over fields of their names. -/
def Entry.members (e : Entry) (context : Correlation) : Json.Members :=
  let own : Json.Members := e.fields.filter fun m => !reserved.contains m.1
  let named := ((own.put "event" (.str e.event)).put "logger" (.str (loggerName e.logger))).put "level" (.str e.level.name)
  context.stamp (stampService e.logger named)

end SignOn.Log
