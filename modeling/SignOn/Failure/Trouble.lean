import SignOn.Failure.Basic
import SignOn.Shape.Violation
import SignOn.Text.Refusal

/-!
All that can stop an operation: a failure of the access layer, a value of the wrong shape, or a breakdown, for which
nobody is prepared.
-/

namespace SignOn

inductive Breakdown.Kind where
  | wrongType
  | wrongValue
  | missingKey
  | missingAttribute
  | overflow
  | tooDeep
  | runtime
  | invalidAddress
  | unencodable
  | undecodable
  | faultyByte
  | failedAssertion
  | cookieConflict
  | system
  | timedOut
  | cancelled
  | connectionReset
  deriving DecidableEq

structure Breakdown where
  kind : Breakdown.Kind
  message : String
  deriving DecidableEq

/-- The text of a breakdown for logs. A missing key is shown in quotes. Whoever is called off leaves no answer behind. -/
def Breakdown.text (b : Breakdown) : String :=
  match b.kind with
  | .missingKey => Quote.quoted b.message
  | .cancelled => "No response returned."
  | _ => b.message

/-- What stops an operation. -/
inductive Trouble where
  | failure (f : Failure)
  | invalid (violations : List Violation)
  | breakdown (b : Breakdown)
  deriving DecidableEq

namespace Trouble

def broken (kind : Breakdown.Kind) (message : String) : Trouble :=
  .breakdown ⟨kind, message⟩

/-- Whether the access layer itself reports it. -/
def isFailure : Trouble → Bool
  | .failure _ => true
  | _ => false

end Trouble

/-- The characters of a text that is to become bytes. -/
def Text.encodable : Text → Except Trouble String
  | .whole s => .ok s
  | .torn front half back =>
    .error (.broken .unencodable ((Utf8.refusal? (torn front half back).symbols).getD ""))

theorem Text.encodable_eq_ok_iff {t : Text} {s : String} : t.encodable = .ok s ↔ t = s := by
  cases t <;> simp [Text.encodable]

end SignOn
