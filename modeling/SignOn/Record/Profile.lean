import SignOn.Shape.Field

/-!
What the sign-on realm and the directory tell about a user. Members that are not listed here do not count.
-/

namespace SignOn

/-- Whom a token belongs to. -/
structure TokenInfo where
  email : Text
  user : Text
  deriving DecidableEq

/-- The directory's entry of a user. -/
structure DirectoryEntry where
  cn : Text
  dn : Text
  deriving DecidableEq

/-- A group that a user belongs to. -/
structure GroupInfo where
  name : Text
  deriving DecidableEq

/-- Reads the answer about a token. Each member has a name on the wire and a plain one; the former counts first. -/
def TokenInfo.ofMembers (ms : Json.Members) : Checked TokenInfo :=
  TokenInfo.mk <$> Field.aliased ms ["mail", "email"] "" Field.text <*>
    Field.aliased ms ["dn", "user"] "" Field.text

/-- The members of an answer about a token, by their plain names. -/
def TokenInfo.members (t : TokenInfo) : Json.Members :=
  [("email", .str t.email), ("user", .str t.user)]

def DirectoryEntry.ofMembers (ms : Json.Members) : Checked DirectoryEntry :=
  DirectoryEntry.mk <$> Field.optional ms "cn" "" Field.text <*> Field.optional ms "dn" "" Field.text

def DirectoryEntry.members (e : DirectoryEntry) : Json.Members :=
  [("cn", .str e.cn), ("dn", .str e.dn)]

def GroupInfo.ofMembers (ms : Json.Members) : Checked GroupInfo :=
  GroupInfo.mk <$> Field.optional ms "name" "" Field.text

def GroupInfo.members (g : GroupInfo) : Json.Members :=
  [("name", .str g.name)]

/-- A shape that the body of an answer can have: how to read one, and how to write what was read. -/
structure Target (α : Type) where
  check : Json → Checked α
  view : α → Json

namespace Target

def record {α : Type} (ofMembers : Json.Members → Checked α) (members : α → Json.Members) : Target α where
  check
    | .obj ms => ofMembers ms
    | _ => .refuse .notRecord
  view a := .obj (members a)

def list {α : Type} (item : Target α) : Target (List α) where
  check
    | .arr vs => Field.items item.check 0 vs
    | _ => .refuse .notList
  view as := .arr (as.map item.view)

def tokenInfo : Target TokenInfo := record TokenInfo.ofMembers TokenInfo.members

def directoryEntry : Target DirectoryEntry := record DirectoryEntry.ofMembers DirectoryEntry.members

def groupInfo : Target GroupInfo := record GroupInfo.ofMembers GroupInfo.members

def groups : Target (List GroupInfo) := list groupInfo

end Target

end SignOn
