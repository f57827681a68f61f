import SignOn.Json.Basic

/-!
The correlation context: which request is being handled, and for whom.
-/

namespace SignOn

structure Correlation where
  requestId : Option Text := none
  userId : Option Text := none
  email : Option Text := none
  deriving DecidableEq

namespace Correlation

def empty : Correlation := {}

/-- Takes the given request id, or a fresh one where none is given. -/
def setRequest (c : Correlation) (given : Option Text) (fresh : Text) : Correlation :=
  { c with requestId := some (given.getD fresh) }

/-- A new value for a part of the context, which an empty one does not replace. -/
def replace (old new : Option Text) : Option Text :=
  match new with
  | none | some (.whole "") => old
  | some s => some s

/-- Takes a user id and an email where they are not empty. -/
def setUser (c : Correlation) (userId email : Option Text) : Correlation :=
  { c with userId := replace c.userId userId, email := replace c.email email }

/-- Writes a part of the context into a member, unless it is empty. -/
def stampPart (name : String) (value : Option Text) (ms : Json.Members) : Json.Members :=
  match value with
  | none | some (.whole "") => ms
  | some s => ms.put name (.str s)

/-- Writes the context into the members of a record. -/
def stamp (c : Correlation) (ms : Json.Members) : Json.Members :=
  stampPart "email" c.email (stampPart "user_id" c.userId (stampPart "request_id" c.requestId ms))

@[simp] theorem replace_none (old : Option Text) : replace old none = old := rfl

@[simp] theorem replace_empty (old : Option Text) : replace old (some "") = old := rfl

@[simp] theorem stamp_empty (ms : Json.Members) : empty.stamp ms = ms := rfl

theorem get?_stampPart_self (name : String) {s : Text} (h : s ≠ "") (ms : Json.Members) :
    (stampPart name (some s) ms).get? name = some (.str s) := by
  unfold stampPart
  split
  · next heq => cases heq
  · next heq => exact absurd (Option.some.inj heq) h
  · next heq =>
    obtain rfl := Option.some.inj heq
    exact Table.get?_put_self ms name _

theorem get?_stampPart_of_ne {name : String} {other : Text} (h : other ≠ name) (value : Option Text)
    (ms : Json.Members) : (stampPart name value ms).get? other = ms.get? other := by
  unfold stampPart
  split
  · rfl
  · rfl
  · exact Table.get?_put_of_ne ms _ h

/-- A record tells the id of the context that it was stamped with, unless the id is empty. -/
theorem get?_stamp_requestId {c : Correlation} {id : Text} (h : c.requestId = some id) (hne : id ≠ "")
    (ms : Json.Members) : (c.stamp ms).get? "request_id" = some (.str id) := by
  rw [stamp, get?_stampPart_of_ne (by decide), get?_stampPart_of_ne (by decide), h, get?_stampPart_self _ hne]

end Correlation

end SignOn
