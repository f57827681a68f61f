import SignOn.Proofs.Surroundings

/-!
The courses that an operation can take, one constructor for each, with the value that it gives and the surroundings
that it leaves. Everything that is proved of operations starts from these lists.
-/

namespace SignOn

namespace Directory

variable {α : Type} (d : Directory) (path : String) (target : Target α) (timeout : Option Binary64) (site : Site)

/-- The record of a lookup without a token. -/
def lookupEntry : Log.Entry :=
  ⟨.debug, "sso.directory_client", "Directory lookup",
    [("path", .str path), ("authenticated", .bool false)]⟩

/-- A lookup without a token. -/
inductive Course : Except Trouble α × Site → Prop
  | noAddress {trouble : Trouble} (hr : d.request path [] = .error trouble) :
      Course (.error trouble, site.noted [lookupEntry path])
  | judged {request : Request} (hr : d.request path [] = .ok request) :
      Course (Exchange.fetch request target "directory" (timeout.getD d.timeout) (site.noted [lookupEntry path]))

theorem fetch_course : Course d path target timeout site (d.fetch path target none timeout site) := by
  cases hr : d.request path [] with
  | error trouble =>
    have h : d.fetch path target none timeout site = (.error trouble, site.noted [lookupEntry path]) := by
      simp only [fetch, headers, Effect.bind_apply, Site.note_apply, hr, Effect.pure_apply, lookupEntry,
        Option.isSome_none]
    exact h ▸ .noAddress hr
  | ok request =>
    have h : d.fetch path target none timeout site =
        Exchange.fetch request target "directory" (timeout.getD d.timeout) (site.noted [lookupEntry path]) := by
      simp only [fetch, headers, Effect.bind_apply, Site.note_apply, hr, lookupEntry, Option.isSome_none]
    exact h ▸ .judged hr

end Directory

namespace GroupCheck

variable (c : GroupCheck) (userKey : Text) (key : String) (timeout : Option Binary64) (site : Site)

/-- The lookup of a user's entry. -/
def fetchEntry : Effect (Except Trouble DirectoryEntry) :=
  c.directory.fetch (Directory.entryPath key) .directoryEntry none timeout

/-- The lookup of a user's groups. -/
def fetchGroups : Effect (Except Trouble (List GroupInfo)) :=
  c.directory.fetch (Directory.groupsPath key) .groups none timeout

/-- The two lookups of a group check. None is made for a key that has no bytes, and the second is made only once the first
has told an entry. -/
inductive Lookups : Except Trouble (DirectoryEntry × List GroupInfo) × Site → Prop
  | torn {trouble : Trouble} (hk : userKey.encodable = .error trouble) : Lookups (.error trouble, site)
  | noEntry {key : String} {trouble : Trouble} {left : Site} (hk : userKey = key)
      (he : c.fetchEntry key timeout site = (.error trouble, left)) : Lookups (.error trouble, left)
  | noGroups {key : String} {entry : DirectoryEntry} {trouble : Trouble} {between left : Site} (hk : userKey = key)
      (he : c.fetchEntry key timeout site = (.ok entry, between))
      (hg : c.fetchGroups key timeout between = (.error trouble, left)) : Lookups (.error trouble, left)
  | told {key : String} {entry : DirectoryEntry} {groups : List GroupInfo} {between left : Site} (hk : userKey = key)
      (he : c.fetchEntry key timeout site = (.ok entry, between))
      (hg : c.fetchGroups key timeout between = (.ok groups, left)) : Lookups (.ok (entry, groups), left)

theorem fetchProfile_lookups : Lookups c userKey timeout site (c.fetchProfile userKey timeout site) := by
  cases userKey with
  | torn front half back => exact .torn rfl
  | whole key =>
    have h : c.fetchProfile key timeout site =
        match c.fetchEntry key timeout site with
        | (.error trouble, left) => (.error trouble, left)
        | (.ok entry, between) =>
          match c.fetchGroups key timeout between with
          | (.error trouble, left) => (.error trouble, left)
          | (.ok groups, left) => (.ok (entry, groups), left) := by
      simp only [fetchProfile, Text.encodable, Effect.bind_apply, fetchEntry, fetchGroups]
      rcases c.directory.fetch (Directory.entryPath key) .directoryEntry none timeout site with ⟨_ | entry, between⟩
      · rfl
      · rcases hg : c.directory.fetch (Directory.groupsPath key) .groups none timeout between with
          ⟨_ | groups, left⟩ <;>
          simp only [Effect.bind_apply, hg, Effect.pure_apply]
    rw [h]
    rcases he : c.fetchEntry key timeout site with ⟨trouble | entry, between⟩
    · exact .noEntry rfl he
    · dsimp only
      rcases hg : c.fetchGroups key timeout between with ⟨trouble | groups, left⟩
      · exact .noGroups rfl he hg
      · exact .told rfl he hg

/-- A group check. -/
inductive Course : Except Trouble Bool × Site → Prop
  | noKey (hk : userKey = "") :
      Course (.ok false, site.noted [⟨.warning, logger, "Group check without user key", []⟩])
  | granted {entry : DirectoryEntry} {groups : List GroupInfo} {group : GroupInfo} {left : Site} (hk : userKey ≠ "")
      (hl : c.fetchProfile userKey timeout site = (.ok (entry, groups), left)) (hg : c.granting? groups = some group) :
      Course (.ok true, left.noted [⟨.debug, logger, "Group membership granted",
        [("user", .str userKey), ("cn", .str entry.cn), ("group", .str group.name)]⟩])
  | refused {entry : DirectoryEntry} {groups : List GroupInfo} {left : Site} (hk : userKey ≠ "")
      (hl : c.fetchProfile userKey timeout site = (.ok (entry, groups), left)) (hg : c.granting? groups = none) :
      Course (.ok false, left.noted [⟨.info, logger, "User not in allowed groups",
        [("user", .str userKey), ("cn", .str entry.cn), ("groups", Json.ofTexts (groups.map (·.name)))]⟩])
  | cancelled {f : Failure} {left : Site} (hk : userKey ≠ "")
      (hl : c.fetchProfile userKey timeout site = (.error (.failure f), left)) (hf : f.kind = .cancelled) :
      Course (.error (.failure f), left)
  | denied {f : Failure} {left : Site} (hk : userKey ≠ "")
      (hl : c.fetchProfile userKey timeout site = (.error (.failure f), left)) (hf : f.kind ≠ .cancelled) :
      Course (.ok false, left.noted [⟨.error, logger, "Directory lookup failed, denying access",
        [("user", .str userKey), ("code", .str f.code), ("error", .str f.message)]⟩])
  | broken {trouble : Trouble} {left : Site} (hk : userKey ≠ "")
      (hl : c.fetchProfile userKey timeout site = (.error trouble, left)) (ht : trouble.isFailure = false) :
      Course (.error trouble, left)

theorem isAuthorized_course : Course c userKey timeout site (c.isAuthorized userKey timeout site) := by
  by_cases hk : userKey = ""
  · simp only [isAuthorized, hk, ↓reduceIte, Effect.bind_apply, Site.note_apply, Effect.pure_apply]
    exact .noKey rfl
  · simp only [isAuthorized, hk, ↓reduceIte, Effect.bind_apply]
    rcases hl : c.fetchProfile userKey timeout site with ⟨trouble | ⟨entry, groups⟩, left⟩
    · cases trouble with
      | failure f =>
        by_cases hf : f.kind = .cancelled
        · simp only [decide, hf, ↓reduceIte, Effect.pure_apply]
          exact .cancelled hk hl hf
        · simp only [decide, hf, ↓reduceIte, Effect.bind_apply, Site.note_apply, Effect.pure_apply]
          exact .denied hk hl hf
      | invalid violations => exact .broken hk hl rfl
      | breakdown b => exact .broken hk hl rfl
    · cases hg : c.granting? groups with
      | some group =>
        simp only [decide, hg, Effect.bind_apply, Site.note_apply, Effect.pure_apply]
        exact .granted hk hl hg
      | none =>
        simp only [decide, hg, Effect.bind_apply, Site.note_apply, Effect.pure_apply]
        exact .refused hk hl hg

end GroupCheck

namespace Resolver

variable (r : Resolver) (s : Session) (timeout : Option Binary64) (site : Site)

/-- The session with what was told of its token. -/
def written (info : TokenInfo) : Session :=
  { s with email := info.email, user := info.user }

/-- The question whom a token belongs to. -/
def ask (request : Request) : Effect (Except Trouble TokenInfo) :=
  Exchange.fetch request .tokenInfo "tokeninfo" (timeout.getD r.timeout)

/-- A resolution. -/
inductive Course : Outcome Unit × Site → Prop
  | known (hs : s.isResolved = true) : Course (⟨s, .ok ()⟩, site)
  | noToken (hs : s.isResolved = false) (ht : s.accessToken = "") :
      Course (⟨s, .error (.failure .missingCredential)⟩, site)
  | noRequest {trouble : Trouble} (hs : s.isResolved = false) (ht : s.accessToken ≠ "")
      (hr : r.request s.accessToken = .error trouble) : Course (⟨s, .error trouble⟩, site)
  | failed {request : Request} {trouble : Trouble} {left : Site} (hs : s.isResolved = false) (ht : s.accessToken ≠ "")
      (hr : r.request s.accessToken = .ok request) (ha : r.ask timeout request site = (.error trouble, left)) :
      Course (⟨s, .error trouble⟩, left)
  | incomplete {request : Request} {info : TokenInfo} {left : Site} (hs : s.isResolved = false)
      (ht : s.accessToken ≠ "") (hr : r.request s.accessToken = .ok request)
      (ha : r.ask timeout request site = (.ok info, left)) (he : info.email = "") :
      Course (⟨written s info, .error (.failure (.profileIncomplete info.user))⟩,
        left.noted [⟨.warning, logger, "Token info without email", [("user", .str info.user)]⟩])
  | told {request : Request} {info : TokenInfo} {left : Site} (hs : s.isResolved = false) (ht : s.accessToken ≠ "")
      (hr : r.request s.accessToken = .ok request) (ha : r.ask timeout request site = (.ok info, left))
      (he : info.email ≠ "") :
      Course (⟨written s info, .ok ()⟩,
        left.noted [⟨.debug, logger, "Profile resolved", [("email", .str info.email), ("user", .str info.user)]⟩])

theorem resolve_course : Course r s timeout site (r.resolve s timeout site) := by
  cases hs : s.isResolved with
  | true =>
    simp only [resolve, hs, ↓reduceIte, Effect.pure_apply]
    exact .known hs
  | false =>
    by_cases ht : s.accessToken = ""
    · simp only [resolve, hs, ht, Bool.false_eq_true, ↓reduceIte, Effect.pure_apply]
      exact .noToken hs ht
    · cases hr : r.request s.accessToken with
      | error trouble =>
        simp only [resolve, hs, ht, hr, Bool.false_eq_true, ↓reduceIte, Effect.pure_apply]
        exact .noRequest hs ht hr
      | ok request =>
        simp only [resolve, hs, ht, hr, Bool.false_eq_true, ↓reduceIte, Effect.bind_apply]
        rcases ha : Exchange.fetch request .tokenInfo "tokeninfo" (timeout.getD r.timeout) site with
          ⟨trouble | info, left⟩
        · exact .failed hs ht hr ha
        · by_cases he : info.email = ""
          · simp only [accept, he, ↓reduceIte, Effect.bind_apply, Site.note_apply, Effect.pure_apply]
            simpa only [written, he] using Course.incomplete hs ht hr ha he
          · simp only [accept, he, ↓reduceIte, Effect.bind_apply, Site.note_apply, Effect.pure_apply]
            exact .told hs ht hr ha he

end Resolver

namespace Provider

variable (p : Provider) (s : Session) (now : Instant) (timeout : Option Binary64) (site : Site)

/-- A check of an access token. -/
inductive TokenCourse : Except Trouble Bool × Site → Prop
  | nothing (ht : s.accessToken = "" ∨ p.data.validateUrl = "") : TokenCourse (.ok false, site)
  | noRequest {trouble : Trouble} (ht : ¬(s.accessToken = "" ∨ p.data.validateUrl = ""))
      (hr : Exchange.tokenRequest p.data.validateUrl s.accessToken (bearerHeaders s.accessToken) = .error trouble) :
      TokenCourse (.error trouble, site)
  | judged {request : Request} {endpoint : String} (ht : ¬(s.accessToken = "" ∨ p.data.validateUrl = ""))
      (hr : Exchange.tokenRequest p.data.validateUrl s.accessToken (bearerHeaders s.accessToken) =
        .ok (request, endpoint)) :
      TokenCourse ((Exchange.judgeToken endpoint (site.network.ask request).1).2,
        (site.asked request (timeout.getD p.data.requestTimeout)).noted
          ((Exchange.judgeToken endpoint (site.network.ask request).1).1.map Exchange.Remark.entry))

theorem validateSession_course : TokenCourse p s timeout site (p.validateSession s timeout site) := by
  unfold validateSession
  by_cases ht : s.accessToken = "" ∨ p.data.validateUrl = ""
  · rw [Exchange.validateToken_of_empty _ _ _ (by simpa using ht)]
    exact .nothing ht
  · have ht' : ¬(s.accessToken = "" ∨ (some p.data.validateUrl).getD "" = "") := by simpa using ht
    cases hr : Exchange.tokenRequest p.data.validateUrl s.accessToken (bearerHeaders s.accessToken) with
    | error trouble =>
      rw [Exchange.validateToken_of_error _ _ ht' hr]
      exact .noRequest ht hr
    | ok asked =>
      rw [Exchange.validateToken_of_ok _ _ ht' hr]
      exact .judged ht hr

/-- The session whose expiry a refresh has moved. -/
def extended (expiry : Moment) : Session :=
  { s with expiresOn := some expiry }

/-- A refresh. -/
inductive RefreshCourse : Outcome Bool × Site → Prop
  | skipped (hd : isDue s now = false) : RefreshCourse (⟨s, .ok false⟩, site)
  | unanswered {trouble : Trouble} {left : Site} (hd : isDue s now = true)
      (hc : p.validateGroup s timeout site = (.error trouble, left)) : RefreshCourse (⟨s, .error trouble⟩, left)
  | lost {left : Site} (hd : isDue s now = true) (hc : p.validateGroup s timeout site = (.ok false, left)) :
      RefreshCourse (⟨s, .error (.failure (.membershipLost s.email s.user))⟩,
        left.noted [⟨.warning, logger, "Group membership lost on refresh", [("session", .str s.text)]⟩])
  | beyond {left : Site} (hd : isDue s now = true) (hc : p.validateGroup s timeout site = (.ok true, left))
      (he : nextExpiry? now = none) :
      RefreshCourse (⟨s, .error (.broken .overflow "date value out of range")⟩, left)
  | moved {left : Site} {expiry : Moment} (hd : isDue s now = true)
      (hc : p.validateGroup s timeout site = (.ok true, left)) (he : nextExpiry? now = some expiry) :
      RefreshCourse (⟨extended s expiry, .ok false⟩,
        left.noted [⟨.info, logger, "refreshed access token",
          [("session", .str (extended s expiry).text), ("expired_on", Json.ofOption (s.expiresOn.map fun m => ↑m.iso))]⟩])

theorem refresh_course : RefreshCourse p s now timeout site (p.refresh s now timeout site) := by
  cases hd : isDue s now with
  | false =>
    simp only [refresh, hd, Bool.false_eq_true, ↓reduceIte, Effect.pure_apply]
    exact .skipped hd
  | true =>
    simp only [refresh, hd, ↓reduceIte, Effect.bind_apply]
    rcases hc : p.validateGroup s timeout site with ⟨trouble | _ | _, left⟩
    · exact .unanswered hd hc
    · simp only [Effect.bind_apply, Site.note_apply, Effect.pure_apply]
      exact .lost hd hc
    · cases he : nextExpiry? now with
      | none =>
        simp only [extend, he, Effect.pure_apply]
        exact .beyond hd hc he
      | some expiry =>
        simp only [extend, he, Effect.bind_apply, Site.note_apply, Effect.pure_apply]
        exact .moved hd hc he

end Provider

end SignOn
