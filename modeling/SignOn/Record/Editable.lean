import SignOn.Record.Profile
import SignOn.Record.ErrorResponse
import SignOn.Record.SessionPayload
import SignOn.Record.ProviderData
import SignOn.Failure.Trouble

/-!
Records whose fields can be assigned one by one. Frozen records refuse; the others take any value for a field that they
have.
-/

namespace SignOn

inductive Record.Kind where
  | tokenInfo
  | directoryEntry
  | groupInfo
  | providerData
  | sessionPayload
  | errorResponse
  deriving DecidableEq

/-- A record: its kind and its fields. -/
structure Record where
  kind : Record.Kind
  fields : Json.Members
  deriving DecidableEq

namespace Record

/-- Whether the fields of a kind cannot be assigned. -/
def Kind.isFrozen : Kind → Bool
  | .directoryEntry | .groupInfo | .providerData => true
  | .tokenInfo | .sessionPayload | .errorResponse => false

def Kind.read (k : Kind) (ms : Json.Members) : Checked Json.Members :=
  match k with
  | .tokenInfo => TokenInfo.members <$> TokenInfo.ofMembers ms
  | .directoryEntry => DirectoryEntry.members <$> DirectoryEntry.ofMembers ms
  | .groupInfo => GroupInfo.members <$> GroupInfo.ofMembers ms
  | .providerData => ProviderData.members <$> ProviderData.ofMembers ms
  | .sessionPayload => SessionPayload.membersWith Moment.iso <$> SessionPayload.ofMembers ms
  | .errorResponse => ErrorResponse.members <$> ErrorResponse.ofMembers ms

def read (k : Kind) (ms : Json.Members) : Checked Record :=
  Record.mk k <$> k.read ms

def assign (r : Record) (name : String) (value : Json) : Except Trouble Record :=
  if r.kind.isFrozen then .error (.invalid [⟨[name], .frozen⟩])
  else if r.fields.has name then .ok { r with fields := r.fields.put name value }
  else .error (.broken .wrongValue (name ++ " is no field"))

/-- Assigns fields in order, up to the first that is refused. -/
def assignAll (r : Record) : Table Json → Record × Except Trouble Unit
  | [] => (r, .ok ())
  | (name, value) :: rest =>
    match r.assign name value with
    | .ok r => r.assignAll rest
    | .error trouble => (r, .error trouble)

/-- A frozen record stays as it is. -/
theorem assignAll_of_isFrozen (r : Record) (h : r.kind.isFrozen) (rows : Table Json) :
    (r.assignAll rows).1 = r := by
  cases rows with
  | nil => rfl
  | cons row rows => simp [assignAll, assign, h]

end Record

end SignOn
