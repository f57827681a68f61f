import SignOn.Directory

/-!
The group check: a user is let in when the directory lists a group of the allow-list. Whatever goes wrong denies, save
that a request given up is told to the caller.
-/

namespace SignOn

/-- A directory and the groups that are let in. -/
structure GroupCheck where
  directory : Directory
  allowed : List Text
  deriving DecidableEq

namespace GroupCheck

def logger : String := "sso.groups"

/-- The entry of a user, and then the groups. -/
def fetchProfile (c : GroupCheck) (userKey : Text) (timeout : Option Binary64) :
    Effect (Except Trouble (DirectoryEntry × List GroupInfo)) :=
  match userKey.encodable with
  | .error trouble => pure (.error trouble)
  | .ok userKey => do
    match ← c.directory.fetch (Directory.entryPath userKey) .directoryEntry none timeout with
    | .error trouble => return .error trouble
    | .ok entry =>
      match ← c.directory.fetch (Directory.groupsPath userKey) .groups none timeout with
      | .error trouble => return .error trouble
      | .ok groups => return .ok (entry, groups)

/-- The first of a user's groups that is let in. -/
def granting? (c : GroupCheck) (groups : List GroupInfo) : Option GroupInfo :=
  groups.find? fun g => c.allowed.contains g.name

/-- What the profile of a user comes to. -/
def decide (c : GroupCheck) (userKey : Text) :
    Except Trouble (DirectoryEntry × List GroupInfo) → Effect (Except Trouble Bool)
  | .ok (entry, groups) =>
    match c.granting? groups with
    | some group => do
      Site.note .debug logger "Group membership granted"
        [("user", .str userKey), ("cn", .str entry.cn), ("group", .str group.name)]
      return .ok true
    | none => do
      Site.note .info logger "User not in allowed groups"
        [("user", .str userKey), ("cn", .str entry.cn), ("groups", Json.ofTexts (groups.map (·.name)))]
      return .ok false
  | .error (.failure f) =>
    if f.kind = .cancelled then pure (.error (.failure f))
    else do
      Site.note .error logger "Directory lookup failed, denying access"
        [("user", .str userKey), ("code", .str f.code), ("error", .str f.message)]
      return .ok false
  | .error trouble => pure (.error trouble)

/-- Whether a user is let in. -/
def isAuthorized (c : GroupCheck) (userKey : Text) (timeout : Option Binary64) :
    Effect (Except Trouble Bool) :=
  if userKey = "" then do
    Site.note .warning logger "Group check without user key" []
    return .ok false
  else do
    c.decide userKey (← c.fetchProfile userKey timeout)

end GroupCheck

end SignOn
