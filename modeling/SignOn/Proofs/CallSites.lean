import SignOn.Proofs.Traces
import SignOn.Proofs.Replies

/-!
What is put on record. For each way that an action can end, the log calls that it makes on the way, with their fields.
-/

namespace SignOn

open Effect

namespace Exchange

section

variable {α : Type} (service url : String)

/-- The call about a reply that came. -/
def answeredEntry (status : Nat) : Log.Entry :=
  ⟨.debug, logger, "GET", [("service", .str service), ("url", .str url), ("status_code", .int status)]⟩

/-- What a request for a record comes to, and the calls about it. -/
inductive FetchCalls : Except Trouble α → List Log.Entry → Prop
  | broken (b : Breakdown) : FetchCalls (.error (.breakdown b)) []
  | timedOut (message : String) :
      FetchCalls
        (.error (.failure (.cancelled (service ++ ": request to " ++ url ++ " timed out") [("url", .str url)])))
        [⟨.warning, logger, "Request timed out",
          [("service", .str service), ("url", .str url), ("error", .str message)]⟩]
  | lost (message reason : String) :
      FetchCalls (.error (.failure (.remoteUnavailable service reason [("url", .str url)])))
        [⟨.error, logger, "HTTP transport error",
          [("service", .str service), ("url", .str url), ("error", .str message)]⟩]
  | refused {status : Nat} (text : String) (hs : status ≠ 200) :
      FetchCalls
        (.error (.failure (.remoteUnavailable service s!"got {status} {text}"
          [("url", .str url), ("status_code", .int status)])))
        [answeredEntry service url status]
  /-- a refusal that is no text, or a body that nests too deep -/
  | unreadable (status : Nat) (b : Breakdown) :
      FetchCalls (.error (.breakdown b)) [answeredEntry service url status]
  | told (a : α) : FetchCalls (.ok a) [answeredEntry service url 200]
  | malformed (misfit : Misfit) :
      FetchCalls
        (.error (.failure (.undecodable service ("error unmarshalling response from " ++ url)
          [("url", .str url), ("error", misfit.told)])))
        [answeredEntry service url 200, ⟨.error, logger, "Malformed response body",
          [("service", .str service), ("url", .str url), ("error", misfit.told)]⟩]

end

/-- What a token check comes to once it is answered, and the calls about it. -/
inductive TokenCalls (endpoint : String) : Except Trouble Bool → List Log.Entry → Prop
  | broken (b : Breakdown) : TokenCalls endpoint (.error (.breakdown b)) []
  | timedOut :
      TokenCalls endpoint
        (.error (.failure (.cancelled ("token validation against " ++ endpoint ++ " timed out") [("url", .str endpoint)])))
        [⟨.warning, logger, "Token validation timed out", [("url", .str endpoint)]⟩]
  | lost (message : String) :
      TokenCalls endpoint (.ok false)
        [⟨.error, logger, "Token validation request failed", [("url", .str endpoint), ("error", .str message)]⟩]
  | valid : TokenCalls endpoint (.ok true) []
  | refused {status : Nat} (text : String) (hs : status ≠ 200) :
      TokenCalls endpoint (.ok false) [⟨.warning, logger, "Token validation request failed",
        [("url", .str endpoint), ("status_code", .int status), ("body", .str text)]⟩]

/-- The calls of a token check. -/
inductive ValidateCalls (address : Option String) (token : Text) (headers : Table Text) :
    Except Trouble Bool → List Log.Entry → Prop
  | nothing (ht : token = "" ∨ address.getD "" = "") : ValidateCalls address token headers (.ok false) []
  | noRequest {trouble : Trouble} (hr : tokenRequest (address.getD "") token headers = .error trouble) :
      ValidateCalls address token headers (.error trouble) []
  | judged {request : Request} {endpoint : String} {result : Except Trouble Bool} {calls : List Log.Entry}
      (hr : tokenRequest (address.getD "") token headers = .ok (request, endpoint))
      (h : TokenCalls endpoint result calls) : ValidateCalls address token headers result calls

theorem fetchCalls_of_judge {α : Type} (target : Target α) (service url : String) (reply : Reply) :
    FetchCalls service url (judge target service url reply).2
      ((judge target service url reply).1.map Remark.entry) := by
  cases reply with
  | broken b => exact .broken b
  | failed fault message =>
    simp only [judge]
    split
    · exact .timedOut message
    · exact .lost message _
  | answered r =>
    simp only [judge]
    split
    · next hs =>
      cases htext : r.text with
      | error trouble =>
        obtain ⟨b, rfl⟩ := Response.eq_breakdown_of_text htext
        exact .unreadable r.status b
      | ok text => exact .refused text hs
    · next hs =>
      rw [Decidable.not_not.1 hs]
      split
      · exact .told _
      · split
        · exact .unreadable 200 _
        · exact .malformed _

theorem tokenCalls_of_judge (endpoint : String) (reply : Reply) :
    TokenCalls endpoint (judgeToken endpoint reply).2 ((judgeToken endpoint reply).1.map Remark.entry) := by
  cases reply with
  | broken b => exact .broken b
  | failed fault message =>
    simp only [judgeToken]
    split
    · exact .timedOut
    · exact .lost message
  | answered r =>
    simp only [judgeToken]
    split
    · exact .valid
    · next hs =>
      cases htext : r.text with
      | error trouble =>
        obtain ⟨b, rfl⟩ := Response.eq_breakdown_of_text htext
        exact .broken b
      | ok text => exact .refused text hs

theorem notes_remark (remarks : List Remark) :
    (remark remarks).Notes fun _ calls => calls = remarks.map Remark.entry := by
  induction remarks with
  | nil => exact notes_pure rfl
  | cons r remarks ih =>
    apply (notes_note r.level logger r.event r.fields).bind
    rintro _ _ rfl
    exact ih.mono fun _ _ h => congrArg (r.entry :: ·) h

theorem notes_fetch {α : Type} (request : Request) (target : Target α) (service : String) (timeout : Binary64) :
    (fetch request target service timeout).Notes (FetchCalls service request.url.text) := by
  apply (notes_send request timeout).bind
  rintro reply _ rfl
  apply (notes_remark _).bind_pure
  rintro _ _ rfl
  exact fetchCalls_of_judge target service request.url.text reply

theorem notes_validateToken (address : Option String) (token : Text) (headers : Table Text) (timeout : Binary64) :
    (validateToken address token headers timeout).Notes (ValidateCalls address token headers) := by
  unfold validateToken
  dsimp only
  split
  · next ht => exact notes_pure (.nothing ht)
  split
  · next hr => exact notes_pure (.noRequest hr)
  · next request endpoint hr =>
    apply (notes_send request timeout).bind
    rintro reply _ rfl
    apply (notes_remark _).bind_pure
    rintro _ _ rfl
    exact .judged hr (tokenCalls_of_judge endpoint reply)

end Exchange

namespace Directory

/-- The calls of a lookup without a token. -/
inductive LookupCalls {α : Type} (d : Directory) (path : String) : Except Trouble α → List Log.Entry → Prop
  | noAddress {trouble : Trouble} (hr : d.request path [] = .error trouble) :
      LookupCalls d path (.error trouble) [lookupEntry path]
  | judged {request : Request} {result : Except Trouble α} {calls : List Log.Entry}
      (hr : d.request path [] = .ok request) (h : Exchange.FetchCalls "directory" request.url.text result calls) :
      LookupCalls d path result (lookupEntry path :: calls)

theorem notes_lookup {α : Type} (d : Directory) (path : String) (target : Target α) (timeout : Option Binary64) :
    (d.fetch path target none timeout).Notes (LookupCalls d path) := by
  apply (notes_note .debug "sso.directory_client" "Directory lookup"
    [("path", .str path), ("authenticated", .bool false)]).bind
  rintro _ _ rfl
  split
  · next hr => exact notes_pure (.noAddress hr)
  · next hr => exact (Exchange.notes_fetch ..).mono fun _ _ h => .judged hr h

end Directory

namespace GroupCheck

variable (c : GroupCheck) (userKey : Text)

/-- The calls of the two lookups of a group check. -/
inductive ProfileCalls : Except Trouble (DirectoryEntry × List GroupInfo) → List Log.Entry → Prop
  | torn {trouble : Trouble} (hk : userKey.encodable = .error trouble) : ProfileCalls (.error trouble) []
  | noEntry {key : String} {trouble : Trouble} {calls : List Log.Entry} (hk : userKey = key)
      (he : c.directory.LookupCalls (Directory.entryPath key) (.error trouble : Except Trouble DirectoryEntry) calls) :
      ProfileCalls (.error trouble) calls
  | noGroups {key : String} {entry : DirectoryEntry} {trouble : Trouble} {calls more : List Log.Entry} (hk : userKey = key)
      (he : c.directory.LookupCalls (Directory.entryPath key) (.ok entry) calls)
      (hg : c.directory.LookupCalls (Directory.groupsPath key) (.error trouble : Except Trouble (List GroupInfo)) more) :
      ProfileCalls (.error trouble) (calls ++ more)
  | told {key : String} {entry : DirectoryEntry} {groups : List GroupInfo} {calls more : List Log.Entry} (hk : userKey = key)
      (he : c.directory.LookupCalls (Directory.entryPath key) (.ok entry) calls)
      (hg : c.directory.LookupCalls (Directory.groupsPath key) (.ok groups) more) :
      ProfileCalls (.ok (entry, groups)) (calls ++ more)

/-- The calls of a group check. -/
inductive CheckCalls : Except Trouble Bool → List Log.Entry → Prop
  | noKey (hk : userKey = "") : CheckCalls (.ok false) [⟨.warning, logger, "Group check without user key", []⟩]
  | granted {entry : DirectoryEntry} {groups : List GroupInfo} {group : GroupInfo} {calls : List Log.Entry}
      (hl : c.ProfileCalls userKey (.ok (entry, groups)) calls) (hg : c.granting? groups = some group) :
      CheckCalls (.ok true) (calls ++ [⟨.debug, logger, "Group membership granted",
        [("user", .str userKey), ("cn", .str entry.cn), ("group", .str group.name)]⟩])
  | refused {entry : DirectoryEntry} {groups : List GroupInfo} {calls : List Log.Entry}
      (hl : c.ProfileCalls userKey (.ok (entry, groups)) calls) (hg : c.granting? groups = none) :
      CheckCalls (.ok false) (calls ++ [⟨.info, logger, "User not in allowed groups",
        [("user", .str userKey), ("cn", .str entry.cn), ("groups", Json.ofTexts (groups.map (·.name)))]⟩])
  | cancelled {f : Failure} {calls : List Log.Entry} (hl : c.ProfileCalls userKey (.error (.failure f)) calls)
      (hf : f.kind = .cancelled) : CheckCalls (.error (.failure f)) calls
  | denied {f : Failure} {calls : List Log.Entry} (hl : c.ProfileCalls userKey (.error (.failure f)) calls)
      (hf : f.kind ≠ .cancelled) :
      CheckCalls (.ok false) (calls ++ [⟨.error, logger, "Directory lookup failed, denying access",
        [("user", .str userKey), ("code", .str f.code), ("error", .str f.message)]⟩])
  | broken {trouble : Trouble} {calls : List Log.Entry} (hl : c.ProfileCalls userKey (.error trouble) calls)
      (ht : trouble.isFailure = false) : CheckCalls (.error trouble) calls

variable (timeout : Option Binary64)

theorem notes_fetchProfile : (c.fetchProfile userKey timeout).Notes (c.ProfileCalls userKey) := by
  unfold fetchProfile
  split
  · next hk => exact notes_pure (.torn hk)
  next key hk =>
  have hk : userKey = key := Text.encodable_eq_ok_iff.1 hk
  apply (c.directory.notes_lookup _ _ timeout).bind
  intro result calls he
  split
  · exact notes_pure (by simpa using ProfileCalls.noEntry hk he)
  · apply (c.directory.notes_lookup _ _ timeout).bind
    intro result more hg
    split
    · exact notes_pure (by simpa using ProfileCalls.noGroups hk he hg)
    · exact notes_pure (by simpa using ProfileCalls.told hk he hg)

theorem notes_isAuthorized : (c.isAuthorized userKey timeout).Notes (c.CheckCalls userKey) := by
  unfold isAuthorized
  split
  · next hk =>
    apply (notes_note ..).bind_pure
    rintro _ _ rfl
    exact .noKey hk
  · apply (c.notes_fetchProfile userKey timeout).bind
    intro profile calls hl
    unfold decide
    split
    · split
      · next hg =>
        apply (notes_note ..).bind_pure
        rintro _ _ rfl
        exact .granted hl hg
      · next hg =>
        apply (notes_note ..).bind_pure
        rintro _ _ rfl
        exact .refused hl hg
    · split
      · next hf => exact notes_pure (by simpa using CheckCalls.cancelled hl hf)
      · next hf =>
        apply (notes_note ..).bind_pure
        rintro _ _ rfl
        exact .denied hl hf
    · next trouble hnot =>
      have ht : trouble.isFailure = false := by
        cases trouble with
        | failure f => exact absurd rfl (hnot f)
        | invalid violations => rfl
        | breakdown b => rfl
      exact notes_pure (by simpa using CheckCalls.broken hl ht)

end GroupCheck

namespace Resolver

variable (r : Resolver) (s : Session)

/-- The calls of a resolution. -/
inductive ResolveCalls : Outcome Unit → List Log.Entry → Prop
  | known (hs : s.isResolved = true) : ResolveCalls ⟨s, .ok ()⟩ []
  | noToken (hs : s.isResolved = false) (ht : s.accessToken = "") :
      ResolveCalls ⟨s, .error (.failure .missingCredential)⟩ []
  | noRequest {trouble : Trouble} (hr : r.request s.accessToken = .error trouble) : ResolveCalls ⟨s, .error trouble⟩ []
  | failed {request : Request} {trouble : Trouble} {calls : List Log.Entry} (hr : r.request s.accessToken = .ok request)
      (ha : Exchange.FetchCalls "tokeninfo" request.url.text (.error trouble : Except Trouble TokenInfo) calls) :
      ResolveCalls ⟨s, .error trouble⟩ calls
  | incomplete {request : Request} {info : TokenInfo} {calls : List Log.Entry}
      (hr : r.request s.accessToken = .ok request)
      (ha : Exchange.FetchCalls "tokeninfo" request.url.text (.ok info) calls) (he : info.email = "") :
      ResolveCalls ⟨written s info, .error (.failure (.profileIncomplete info.user))⟩
        (calls ++ [⟨.warning, logger, "Token info without email", [("user", .str info.user)]⟩])
  | told {request : Request} {info : TokenInfo} {calls : List Log.Entry} (hr : r.request s.accessToken = .ok request)
      (ha : Exchange.FetchCalls "tokeninfo" request.url.text (.ok info) calls) (he : info.email ≠ "") :
      ResolveCalls ⟨written s info, .ok ()⟩
        (calls ++ [⟨.debug, logger, "Profile resolved", [("email", .str info.email), ("user", .str info.user)]⟩])

theorem notes_resolve (timeout : Option Binary64) : (r.resolve s timeout).Notes (r.ResolveCalls s) := by
  unfold resolve
  split
  · next hs => exact notes_pure (.known hs)
  next hs =>
  split
  · next ht => exact notes_pure (.noToken (by simpa using hs) ht)
  split
  · next hr => exact notes_pure (.noRequest hr)
  · next hr =>
    apply (Exchange.notes_fetch ..).bind
    intro result calls ha
    split
    · exact notes_pure (by simpa using ResolveCalls.failed hr ha)
    · unfold accept
      dsimp only
      split
      · next he =>
        apply (notes_note ..).bind_pure
        rintro _ _ rfl
        exact .incomplete hr ha he
      · next he =>
        apply (notes_note ..).bind_pure
        rintro _ _ rfl
        exact .told hr ha he

end Resolver

namespace Provider

variable (p : Provider) (s : Session) (now : Instant) (timeout : Option Binary64)

/-- The calls of a refresh. -/
inductive RefreshCalls : Outcome Bool → List Log.Entry → Prop
  | skipped (hd : isDue s now = false) : RefreshCalls ⟨s, .ok false⟩ []
  | unanswered {trouble : Trouble} {calls : List Log.Entry} (hc : p.groupCheck.CheckCalls s.user (.error trouble) calls) :
      RefreshCalls ⟨s, .error trouble⟩ calls
  | lost {calls : List Log.Entry} (hc : p.groupCheck.CheckCalls s.user (.ok false) calls) :
      RefreshCalls ⟨s, .error (.failure (.membershipLost s.email s.user))⟩
        (calls ++ [⟨.warning, logger, "Group membership lost on refresh", [("session", .str s.text)]⟩])
  | beyond {calls : List Log.Entry} (hc : p.groupCheck.CheckCalls s.user (.ok true) calls) (he : nextExpiry? now = none) :
      RefreshCalls ⟨s, .error (.broken .overflow "date value out of range")⟩ calls
  | moved {calls : List Log.Entry} {expiry : Moment} (hc : p.groupCheck.CheckCalls s.user (.ok true) calls)
      (he : nextExpiry? now = some expiry) :
      RefreshCalls ⟨extended s expiry, .ok false⟩ (calls ++ [⟨.info, logger, "refreshed access token",
        [("session", .str (extended s expiry).text), ("expired_on", Json.ofOption (s.expiresOn.map fun m => ↑m.iso))]⟩])

theorem notes_refresh : (p.refresh s now timeout).Notes (p.RefreshCalls s now) := by
  unfold refresh
  split
  · apply (p.groupCheck.notes_isAuthorized s.user timeout).bind
    intro result calls hc
    split
    · exact notes_pure (by simpa using RefreshCalls.unanswered hc)
    · unfold extend
      split
      · next he => exact notes_pure (by simpa using RefreshCalls.beyond hc he)
      · next he =>
        apply (notes_note ..).bind_pure
        rintro _ _ rfl
        exact .moved hc he
    · apply (notes_note ..).bind_pure
      rintro _ _ rfl
      exact .lost hc
  · next hd => exact notes_pure (.skipped (by simpa using hd))

/-- Every operation has a trace: it looks at nothing but the network. -/
theorem traced_perform (op : Operation) : (p.perform op s now timeout).Traced := by
  cases op with
  | getProfile | getEmailAddress | getUserName =>
    exact (p.resolver.notes_resolve s timeout).traced_map
  | validateSession => exact (Exchange.notes_validateToken ..).traced_map
  | validateGroup => exact (p.groupCheck.notes_isAuthorized s.user timeout).traced_map
  | refresh => exact (p.notes_refresh s now timeout).traced_map

end Provider

end SignOn
