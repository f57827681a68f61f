import SignOn.Proofs.Answers
import SignOn.Proofs.Heartbeat

/-!
A provider that works against a realm. Whatever is asked of it, and whatever is changed in the realm in between, it comes
to what the two tables of the realm say.
-/

namespace SignOn

/-- Whom a token belongs to by the tables. -/
structure Tables.Owner where
  email : String
  user : String
  deriving DecidableEq

/-- The tables of a realm whose owners are told in full. Nobody goes by the empty name. -/
structure Tables where
  owners : Table Tables.Owner
  users : Table Realm.User
  owners_named : owners.get? "" = none
  users_named : users.get? "" = none

namespace Tables

/-- An owner as it is told. -/
def Owner.members (o : Owner) : Json.Members :=
  [("mail", .str o.email), ("dn", .str o.user)]

/-- The realm that answers from the tables. -/
def realm (t : Tables) : Realm :=
  ⟨t.owners.map fun row => (row.1, row.2.members), t.users⟩

/-- The tables that development starts with. -/
def standard : Tables where
  owners :=
    [ ("token-jdoe", ⟨"j.doe@example.com", "uid=j.doe,ou=people"⟩),
      ("token-asmith", ⟨"a.smith@example.com", "uid=a.smith,ou=people"⟩),
      ("token-noemail", ⟨"", "uid=ghost,ou=people"⟩) ]
  users := Realm.standard.users
  owners_named := rfl
  users_named := rfl

theorem realm_standard : standard.realm = Realm.standard := rfl

theorem get?_tokens (t : Tables) (token : String) :
    t.realm.tokens.get? token = (t.owners.get? token).map Owner.members := by
  show Table.get? (t.owners.map _) token = _
  induction t.owners with
  | nil => rfl
  | cons row rows ih =>
    rw [List.map_cons, Table.get?_cons, Table.get?_cons, ih]
    split
    · rfl
    · rfl

variable (t : Tables) (url : String) (allowed : Text → Bool)

/-- Whom a token belongs to. No table has a name with halves in it. -/
def owner? (token : Text) : Option Owner :=
  token.whole?.bind (t.owners.get? ·)

/-- What is known of a user. -/
def user? (key : Text) : Option Realm.User :=
  key.whole?.bind (t.users.get? ·)

/-- Whether a token has an owner. -/
def knows (token : Text) : Bool :=
  (t.owner? token).isSome

/-- Whether a user is known and belongs to a group that is let in. -/
def admits (user : Text) : Bool :=
  (t.user? user).any fun known => known.groups.any fun group => allowed group

/-- What a resolution comes to. The address of the token info only shows in the failure for an unknown token. -/
def resolve (s : Session) : Outcome Unit :=
  if s.isResolved then ⟨s, .ok ()⟩
  else if s.accessToken = "" then ⟨s, .error (.failure .missingCredential)⟩
  else
    match t.owner? s.accessToken with
    | none => ⟨s, .error (.failure (Exchange.refusal "tokeninfo" url 401 "Invalid token"))⟩
    | some owner =>
      ⟨{ s with email := owner.email, user := owner.user },
        if owner.email = "" then .error (.failure (.profileIncomplete owner.user)) else .ok ()⟩

/-- What a refresh comes to: it rests, or it moves the expiry of a user who is let in to the last whole second that is not
a second ahead of the clock yet. Beyond the calendar there is none. -/
def refresh (s : Session) (now : Instant) : Outcome Bool :=
  if Provider.Rests s now then ⟨s, .ok false⟩
  else if t.admits allowed s.user then
    match Moment.ofInstant? (Provider.wholeSecond (now + 1000000)) with
    | none => ⟨s, .error (.broken .overflow "date value out of range")⟩
    | some expiry => ⟨{ s with expiresOn := some expiry }, .ok false⟩
  else ⟨s, .error (.failure (.membershipLost s.email s.user))⟩

/-- What an operation comes to. -/
def perform (op : Provider.Operation) (s : Session) (now : Instant) : Outcome Provider.Value :=
  match op with
  | .getProfile => (t.resolve url s).map fun _ r => r.map fun _ => .nothing
  | .getEmailAddress => (t.resolve url s).map fun s r => r.map fun _ => .text s.email
  | .getUserName => (t.resolve url s).map fun s r => r.map fun _ => .text s.user
  | .validateSession => ⟨s, .ok (.truth (t.knows s.accessToken))⟩
  | .validateGroup => ⟨s, .ok (.truth (t.admits allowed s.user))⟩
  | .refresh => (t.refresh allowed s now).map fun _ r => r.map .truth

theorem named_put {users : Table Realm.User} (hn : users.get? "" = none) {user : String} {known : Realm.User}
    (h : users.get? user = some known) (value : Realm.User) : (users.put user value).get? "" = none := by
  have hne : "" ≠ user := by
    rintro rfl
    rw [hn] at h
    cases h
  rw [Table.get?_put_of_ne _ _ hne, hn]

/-- Changes the groups of a known user. -/
def setGroups (user : String) (groups : List String) : Except Trouble Tables :=
  match h : t.users.get? user with
  | none => .error (.broken .missingKey user)
  | some known =>
    .ok { t with
          users := t.users.put user { known with groups }
          users_named := named_put t.users_named h _ }

theorem realm_setGroups (user : String) (groups : List String) :
    t.realm.setGroups user groups = (t.setGroups user groups).map realm := by
  have hrealm : t.realm.users = t.users := rfl
  unfold setGroups
  split
  · next h =>
    have hnone : t.realm.setGroups user groups = .error (.broken .missingKey user) := by
      rw [Realm.setGroups, hrealm, h]
    exact hnone
  · next known h =>
    have hsome : t.realm.setGroups user groups =
        .ok ⟨t.realm.tokens, t.users.put user { known with groups }⟩ := by
      rw [Realm.setGroups, hrealm, h]
    exact hsome

end Tables

namespace Effect

variable {α β : Type} {n : Network}

/-- Whether an action gives a value on a network, and leaves the network as it was. -/
def Gives (x : Effect α) (n : Network) (v : α) : Prop :=
  ∀ site : Site, site.network = n → (x site).1 = v ∧ (x site).2.network = n

theorem gives_pure (v : α) : (pure v : Effect α).Gives n v :=
  fun _ h => ⟨rfl, h⟩

theorem Gives.bind {x : Effect α} {f : α → Effect β} {a : α} {b : β} (hx : x.Gives n a) (hf : (f a).Gives n b) :
    (x >>= f).Gives n b := by
  intro site h
  obtain ⟨hvalue, hleft⟩ := hx site h
  rw [bind_apply, hvalue]
  exact hf _ hleft

theorem gives_note (level : Level) (logger event : String) (fields : Json.Members) :
    (Site.note level logger event fields).Gives n () := by
  intro site h
  rw [Site.note_apply, Site.noted_network]
  exact ⟨rfl, h⟩

end Effect

open Effect

/-- Nothing but a realm that answers. -/
def Realm.network (r : Realm) : Network :=
  ⟨[], some r⟩

/-- What the realm replies to a request. -/
def Realm.reply (r : Realm) (request : Request) : Reply :=
  .answered (r.answer (.ofRequest request [])).response

/-- An answer of the realm that leads nowhere is received as it is by whoever asks on the web. -/
theorem Realm.ask_network (r : Realm) {request : Request}
    (hs : request.url.scheme = "http" ∨ request.url.scheme = "https")
    (hl : (r.answer (.ofRequest request [])).location = none) :
    r.network.ask request = (r.reply request, r.network) :=
  congrArg (·, r.network)
    (Request.receive_of_typed (Url.untyped?_of_scheme hs) (Http.Answer.location?_response hl))

theorem Exchange.gives_fetch {α : Type} (r : Realm) {request : Request}
    (hs : request.url.scheme = "http" ∨ request.url.scheme = "https")
    (hl : (r.answer (.ofRequest request [])).location = none) (target : Target α) (service : String)
    (timeout : Binary64) :
    (fetch request target service timeout).Gives r.network
      (judge target service request.url.text (r.reply request)).2 := by
  intro site h
  rw [fetch_apply, Site.noted_network, Site.asked_network, h, r.ask_network hs hl]
  exact ⟨rfl, rfl⟩

/-- Whether a request goes to a path below the directory. -/
structure Request.LooksUp (request : Request) (cs : List Char) : Prop where
  method : request.method = "GET"
  scheme : request.url.scheme = "http"
  path : request.url.path = Directory.sentPath cs

theorem Directory.gives_fetch {α : Type} (r : Realm) (d : Directory) (path : String) (target : Target α)
    (timeout : Option Binary64) {request : Request} (hr : d.request path [] = .ok request)
    (hs : request.url.scheme = "http") (hl : (r.answer (.ofRequest request [])).location = none) :
    (d.fetch path target none timeout).Gives r.network
      (Exchange.judge target "directory" request.url.text (r.reply request)).2 := by
  intro site h
  rw [d.fetch_of_request path target timeout site hr]
  exact Exchange.gives_fetch r (.inl hs) hl target "directory" _ _ (by rw [Site.noted_network, h])

/-- What is said of a user leads nowhere. -/
theorem Realm.location_answerUser (r : Realm) (dn : String) (write : User → Json) :
    (r.answerUser dn write).location = none := by
  unfold answerUser
  cases r.users.get? dn with
  | none => rfl
  | some user => rfl

namespace GroupCheck

variable (t : Tables) (c : GroupCheck) {key : String} (timeout : Option Binary64)

/-- A user that the directory knows has a profile, and no other has. -/
theorem gives_fetchProfile (hk : IsSegment key) {entry listing : Request} (he : c.entryRequest key = .ok entry)
    (hg : c.groupsRequest key = .ok listing) (hentry : entry.LooksUp key.toList)
    (hlisting : listing.LooksUp (key.toList ++ "/groups".toList)) :
    (c.fetchProfile key timeout).Gives t.realm.network
      (match t.users.get? key with
      | none => .error (.failure (Exchange.refusal "directory" entry.url.text 404 "User not found"))
      | some user => .ok (⟨user.cn, key⟩, user.groups.map fun (group : String) => ⟨group⟩)) := by
  have hanswer := t.realm.answer_entry hentry.method hk hentry.path
  have hanswer' := t.realm.answer_groups hlisting.method hk hlisting.path
  have hfirst := c.directory.gives_fetch t.realm (Directory.entryPath key) .directoryEntry timeout he hentry.scheme
    (by rw [hanswer, Realm.location_answerUser])
  have hsecond := c.directory.gives_fetch t.realm (Directory.groupsPath key) .groups timeout hg hlisting.scheme
    (by rw [hanswer', Realm.location_answerUser])
  rw [Realm.reply, hanswer, Realm.answerUser] at hfirst
  rw [Realm.reply, hanswer', Realm.answerUser] at hsecond
  have husers : t.realm.users = t.users := rfl
  rw [husers] at hfirst hsecond
  unfold fetchProfile
  cases hu : t.users.get? key with
  | none =>
    rw [hu] at hfirst
    dsimp only at hfirst
    rw [Exchange.judge_detail .directoryEntry "directory" _ (by decide)] at hfirst
    exact hfirst.bind (gives_pure _)
  | some user =>
    rw [hu] at hfirst hsecond
    dsimp only at hfirst hsecond
    have hplain : Json.Plain 1 (.obj [("cn", .str user.cn), ("dn", .str key)]) :=
      Json.plain_texts [("cn", user.cn), ("dn", key)] (by simp)
    have hplain' : Json.Plain 2 (.arr (user.groups.map fun (g : String) => .obj [("name", .str g)])) := by
      refine .arr fun v hv => ?_
      obtain ⟨g, -, rfl⟩ := List.mem_map.1 hv
      exact Json.plain_texts [("name", g)] (by simp)
    have hcheck : Target.groups.check (.arr (user.groups.map fun (g : String) => .obj [("name", .str g)])) =
        .valid (user.groups.map fun (group : String) => ⟨group⟩) := by
      have hitem : ∀ g : String, Target.groupInfo.check (.obj [("name", .str g)]) = .valid ⟨g⟩ := fun _ => rfl
      exact Field.items_map hitem user.groups 0
    rw [Exchange.judge_told _ _ _ (hplain.mono (by decide)) rfl] at hfirst
    rw [Exchange.judge_told _ _ _ (hplain'.mono (by decide)) hcheck] at hsecond
    exact hfirst.bind (hsecond.bind (gives_pure _))

theorem gives_decide_ok (key : Text) {n : Network} (entry : DirectoryEntry) (groups : List GroupInfo) :
    (c.decide key (.ok (entry, groups))).Gives n (.ok (groups.any fun g => c.allowed.contains g.name)) := by
  cases hg : c.granting? groups with
  | some group =>
    have hallowed := List.find?_some hg
    have hany : (groups.any fun g => c.allowed.contains g.name) = true :=
      List.any_eq_true.2 ⟨group, List.mem_of_find?_eq_some hg, hallowed⟩
    simp only [decide, hg, hany]
    exact (gives_note _ _ _ _).bind (gives_pure _)
  | none =>
    have hany : (groups.any fun g => c.allowed.contains g.name) = false :=
      List.any_eq_false.2 (List.find?_eq_none.1 hg)
    simp only [decide, hg, hany]
    exact (gives_note _ _ _ _).bind (gives_pure _)

theorem gives_decide_refusal (key : Text) {n : Network} (url : String) (status : Nat) (words : String) :
    (c.decide key (.error (.failure (Exchange.refusal "directory" url status words)))).Gives n (.ok false) := by
  have hkind : (Exchange.refusal "directory" url status words).kind ≠ .cancelled := by
    intro h
    cases h
  simp only [decide, hkind, if_false]
  exact (gives_note _ _ _ _).bind (gives_pure _)

/-- The group check lets in whom the tables admit. -/
theorem gives_isAuthorized {userKey : Text}
    (hl : userKey ≠ "" → ∃ key : String, userKey = key ∧ IsSegment key ∧ ∃ entry listing,
      c.entryRequest key = .ok entry ∧ c.groupsRequest key = .ok listing ∧ entry.LooksUp key.toList ∧
        listing.LooksUp (key.toList ++ "/groups".toList)) :
    (c.isAuthorized userKey timeout).Gives t.realm.network (.ok (t.admits c.allowed.contains userKey)) := by
  unfold isAuthorized
  split
  · next hnone =>
    have hadmits : t.admits c.allowed.contains userKey = false := by
      rw [Tables.admits, hnone, Tables.user?, Text.whole?_whole, Option.bind_some, t.users_named]
      rfl
    rw [hadmits]
    exact (gives_note _ _ _ _).bind (gives_pure _)
  · next hsome =>
    obtain ⟨key, rfl, hk, entry, listing, he, hg, hentry, hlisting⟩ := hl hsome
    refine (c.gives_fetchProfile t timeout hk he hg hentry hlisting).bind ?_
    rw [Tables.admits, Tables.user?, Text.whole?_whole, Option.bind_some]
    cases t.users.get? key with
    | none => exact c.gives_decide_refusal key entry.url.text 404 "User not found"
    | some user =>
      have hany : (user.groups.map fun (group : String) => GroupInfo.mk group).any (fun g => c.allowed.contains g.name) =
          user.groups.any fun group => c.allowed.contains ↑group := by
        rw [List.any_map]
        rfl
      rw [Option.any_some, ← hany]
      exact c.gives_decide_ok key ⟨user.cn, key⟩ (user.groups.map fun (group : String) => ⟨group⟩)

end GroupCheck

/-- Whether a user key can be looked up: it is that of nobody, or it makes a path of its own that is short enough. -/
def Provider.KeyStands (identityHost : String) (userKey : Text) : Prop :=
  userKey = "" ∨ ∃ key : String, userKey = key ∧ IsSegment key ∧ KeyFits identityHost key

/-- Whether a provider asks where a realm answers. -/
structure Provider.Faces (p : Provider) (identityHost : String) (url : Url) : Prop where
  profile : Url.read p.data.profileUrl = .ok url
  validate : p.data.validateUrl = p.data.profileUrl
  tokenInfo : url.IsTokenInfo
  lookups : ∀ key : String, KeyFits identityHost key → ∃ entry listing, p.groupCheck.entryRequest key = .ok entry ∧
    p.groupCheck.groupsRequest key = .ok listing ∧ entry.LooksUp key.toList ∧
      listing.LooksUp (key.toList ++ "/groups".toList)

namespace Realm

/-- What the realm answers to a question about a token. -/
theorem answer_bearer (t : Tables) {url : Url} (hurl : url.IsTokenInfo) {token : Text} (ha : IsAscii token)
    {request : Request} (h : Request.make "GET" url (bearerHeaders token) = .ok request) :
    t.realm.answer (.ofRequest request []) = (t.owner? token).elim (.detail 401 "Invalid token") fun owner =>
      { status := 200, body := .json (.obj owner.members) } := by
  obtain ⟨token, rfl⟩ := ha.exists_whole
  obtain ⟨hmethod, rfl⟩ := Request.of_make_get h
  obtain ⟨-, -, hauthorization⟩ := Request.valuesOf_of_make_bearer h
  rw [(Request.authorization_eq_iff _ _).2 hurl.credentials] at hauthorization
  have hbearer : request.valuesOf "authorization" = ["Bearer " ++ token] :=
    (@List.map_inj_right _ _ _ ["Bearer " ++ token] Text.whole fun _ _ => Text.whole.inj).1 hauthorization
  rw [t.realm.answer_token hmethod hurl.path hurl.query hbearer, t.get?_tokens, Tables.owner?, Text.whole?_whole,
    Option.bind_some]
  cases t.owners.get? token with
  | none => rfl
  | some owner => rfl

/-- It leads nowhere. -/
theorem location_answer_bearer (t : Tables) {url : Url} (hurl : url.IsTokenInfo) {token : Text} (ha : IsAscii token)
    {request : Request} (h : Request.make "GET" url (bearerHeaders token) = .ok request) :
    (t.realm.answer (.ofRequest request [])).location = none := by
  rw [answer_bearer t hurl ha h]
  cases t.owner? token with
  | none => rfl
  | some owner => rfl

end Realm

namespace Provider

variable (t : Tables) {p : Provider} {identityHost : String} {url : Url} (hp : p.Faces identityHost url) (s : Session)
  (now : Instant) (timeout : Option Binary64)
include hp

theorem exists_bearer (ha : IsAscii s.accessToken) :
    ∃ request, Request.make "GET" url (bearerHeaders s.accessToken) = .ok request ∧
      p.resolver.request s.accessToken = .ok request := by
  rcases Request.make_bearer_cases "GET" url s.accessToken with ⟨-, request, hm⟩ | ⟨hn, -⟩
  · refine ⟨request, hm, ?_⟩
    show ((Url.read p.data.profileUrl).mapError .ofUrlFault >>= fun url =>
      Request.make "GET" url (bearerHeaders s.accessToken)) = _
    rw [hp.profile]
    exact hm
  · exact absurd ha hn

theorem gives_resolve (ha : IsAscii s.accessToken) :
    (p.resolver.resolve s timeout).Gives t.realm.network (t.resolve url.text s) := by
  obtain ⟨request, hm, hr⟩ := exists_bearer hp s ha
  obtain ⟨-, hurl⟩ := Request.of_make_get hm
  have hask := Exchange.gives_fetch t.realm (.inr (hurl ▸ hp.tokenInfo.scheme))
    (Realm.location_answer_bearer t hp.tokenInfo ha hm) .tokenInfo "tokeninfo" (timeout.getD p.resolver.timeout)
  rw [Realm.reply, Realm.answer_bearer t hp.tokenInfo ha hm, hurl] at hask
  unfold Resolver.resolve Tables.resolve
  split
  · exact gives_pure _
  split
  · exact gives_pure _
  simp only [hr]
  cases howner : t.owner? s.accessToken with
  | none =>
    rw [howner, Option.elim_none, Exchange.judge_detail .tokenInfo "tokeninfo" _ (by decide)] at hask
    exact hask.bind (gives_pure _)
  | some owner =>
    have hplain : Json.Plain 1 (.obj owner.members) :=
      Json.plain_texts [("mail", owner.email), ("dn", owner.user)] (by simp)
    have hcheck : Target.tokenInfo.check (.obj owner.members) = .valid ⟨owner.email, owner.user⟩ := rfl
    rw [howner, Option.elim_some, Exchange.judge_told _ _ _ (hplain.mono (by decide)) hcheck] at hask
    refine hask.bind ?_
    by_cases he : owner.email = ""
    · simp only [Resolver.accept, he, if_true]
      exact (gives_note _ _ _ _).bind (gives_pure _)
    · have he' : (owner.email : Text) ≠ "" := mt Text.whole.inj he
      simp only [Resolver.accept, he, he', if_false]
      exact (gives_note _ _ _ _).bind (gives_pure _)

theorem gives_validateSession (ha : IsAscii s.accessToken) :
    (p.validateSession s timeout).Gives t.realm.network (.ok (t.knows s.accessToken)) := by
  intro site hn
  have hcourse := p.validateSession_course s timeout site
  have haddress : p.data.validateUrl ≠ "" := by
    intro he
    have hread := hp.profile
    rw [← hp.validate, he] at hread
    obtain rfl : (⟨"", "", "", none, "", none, none⟩ : Url) = url := Except.ok.inj hread
    exact absurd hp.tokenInfo.path (by decide)
  obtain ⟨request, hm, -⟩ := exists_bearer hp s ha
  obtain ⟨bare, hbare⟩ := hp.tokenInfo.bare
  have hasked : Exchange.tokenRequest p.data.validateUrl s.accessToken (bearerHeaders s.accessToken) =
      .ok (request, bare.text) := by
    rw [Exchange.tokenRequest_of_read (hp.validate ▸ hp.profile), hm, hbare]
    rfl
  generalize p.validateSession s timeout site = o at hcourse ⊢
  cases hcourse with
  | nothing ht =>
    have hnobody : t.knows s.accessToken = false := by
      rw [Tables.knows, ht.resolve_right haddress, Tables.owner?, Text.whole?_whole, Option.bind_some, t.owners_named]
      rfl
    rw [hnobody]
    exact ⟨rfl, hn⟩
  | noRequest ht hr => exact absurd (hr.symm.trans hasked) (by simp)
  | judged ht hr =>
    obtain ⟨rfl, rfl⟩ := Prod.mk.inj (Except.ok.inj (hr.symm.trans hasked))
    obtain ⟨-, hurl⟩ := Request.of_make_get hm
    rw [Site.noted_network, Site.asked_network, hn,
      t.realm.ask_network (.inr (hurl ▸ hp.tokenInfo.scheme)) (Realm.location_answer_bearer t hp.tokenInfo ha hm),
      Realm.reply, Realm.answer_bearer t hp.tokenInfo ha hm, Tables.knows]
    refine ⟨?_, rfl⟩
    cases t.owner? s.accessToken with
    | none => exact Exchange.judgeToken_detail bare.text (by decide) "Invalid token"
    | some info => rfl

theorem gives_validateGroup (hk : KeyStands identityHost s.user) :
    (p.validateGroup s timeout).Gives t.realm.network (.ok (t.admits p.data.allowedGroups.contains s.user)) := by
  refine p.groupCheck.gives_isAuthorized t timeout fun hsome => ?_
  obtain ⟨key, hkey, hsegment, hfit⟩ := hk.resolve_left hsome
  exact ⟨key, hkey, hsegment, hp.lookups key hfit⟩

theorem gives_refresh (hk : KeyStands identityHost s.user) :
    (p.refresh s now timeout).Gives t.realm.network (t.refresh p.data.allowedGroups.contains s now) := by
  have hcheck := gives_validateGroup t hp s timeout hk
  have hnext : nextExpiry? now = Moment.ofInstant? (wholeSecond (now + 1000000)) := rfl
  unfold refresh Tables.refresh
  by_cases hrests : Rests s now
  · rw [if_pos hrests, (isDue_eq_false_iff s now).2 hrests]
    exact gives_pure _
  · rw [if_neg hrests, (isDue_eq_true_iff s now).2 hrests]
    refine hcheck.bind ?_
    cases t.admits p.data.allowedGroups.contains s.user with
    | true =>
      unfold extend
      rw [hnext]
      cases Moment.ofInstant? (wholeSecond (now + 1000000)) with
      | none => exact gives_pure _
      | some expiry => exact (gives_note _ _ _ _).bind (gives_pure _)
    | false => exact (gives_note _ _ _ _).bind (gives_pure _)

/-- In front of a realm, an operation comes to what the tables say. -/
theorem gives_perform (op : Operation) (ha : IsAscii s.accessToken) (hk : KeyStands identityHost s.user) :
    (p.perform op s now timeout).Gives t.realm.network (t.perform url.text p.data.allowedGroups.contains op s now) := by
  have hresolve := gives_resolve t hp s timeout ha
  cases op with
  | getProfile | getEmailAddress | getUserName => exact hresolve.bind (gives_pure _)
  | validateSession => exact (gives_validateSession t hp s timeout ha).bind (gives_pure _)
  | validateGroup => exact (gives_validateGroup t hp s timeout hk).bind (gives_pure _)
  | refresh => exact (gives_refresh t hp s now timeout hk).bind (gives_pure _)

end Provider

/-- Something that is done in front of a realm: an operation of the provider, or a change of a user's groups. -/
inductive Rehearsal.Action where
  | perform (op : Provider.Operation) (now : Instant) (timeout : Option Binary64)
  | setGroups (user : String) (groups : List String)

open Rehearsal

/-- Changes groups in the realm behind a network. -/
def Network.setGroups (n : Network) (user : String) (groups : List String) : Except Trouble Network :=
  match n.realm with
  | none => .error (.broken .missingAttribute "there is no realm")
  | some realm => (realm.setGroups user groups).map fun realm => { n with realm := some realm }

/-- What an action comes to. -/
def Provider.act (p : Provider) (s : Session) (site : Site) : Action → Outcome Provider.Value × Site
  | .perform op now timeout => p.perform op s now timeout site
  | .setGroups user groups =>
    match site.network.setGroups user groups with
    | .ok network => (⟨s, .ok .nothing⟩, { site with network })
    | .error trouble => (⟨s, .error trouble⟩, site)

/-- What some actions come to, one after another on one session. -/
def Provider.rehearse (p : Provider) (s : Session) (site : Site) : List Action → List (Outcome Provider.Value)
  | [] => []
  | a :: as =>
    let done := p.act s site a
    done.1 :: rehearse p done.1.session done.2 as

namespace Tables

variable (url : String) (allowed : Text → Bool)

/-- What an action comes to by the tables. -/
def act (t : Tables) (s : Session) : Action → Outcome Provider.Value × Tables
  | .perform op now _ => (t.perform url allowed op s now, t)
  | .setGroups user groups =>
    match t.setGroups user groups with
    | .ok t => (⟨s, .ok .nothing⟩, t)
    | .error trouble => (⟨s, .error trouble⟩, t)

/-- What some actions come to by the tables. -/
def rehearse (t : Tables) (s : Session) : List Action → List (Outcome Provider.Value)
  | [] => []
  | a :: as =>
    let done := t.act url allowed s a
    done.1 :: rehearse done.2 done.1.session as

end Tables

namespace Provider

/-- No action writes a token. -/
theorem act_accessToken (p : Provider) (s : Session) (site : Site) (a : Action) :
    (p.act s site a).1.session.accessToken = s.accessToken := by
  cases a with
  | perform op now timeout => exact (p.perform_tokens op s now timeout site).1
  | setGroups user groups =>
    cases hset : site.network.setGroups user groups with
    | ok network => simp only [act, hset]
    | error trouble => simp only [act, hset]

section Faces

variable (t : Tables) {p : Provider} {identityHost : String} {url : Url} (hp : p.Faces identityHost url) {s : Session}
include hp

/-- An action comes to what the tables say, and leaves the realm that answers from the tables it leaves. -/
theorem act_eq_tables (ha : IsAscii s.accessToken) (hk : KeyStands identityHost s.user) {site : Site}
    (hn : site.network = t.realm.network) (a : Action) :
    (p.act s site a).1 = (t.act url.text p.data.allowedGroups.contains s a).1 ∧
      (p.act s site a).2.network = (t.act url.text p.data.allowedGroups.contains s a).2.realm.network := by
  cases a with
  | perform op now timeout => exact gives_perform t hp s now timeout op ha hk site hn
  | setGroups user groups =>
    have hset : site.network.setGroups user groups = ((t.setGroups user groups).map Tables.realm).map Realm.network := by
      rw [hn, Network.setGroups, ← t.realm_setGroups]
      rfl
    unfold act Tables.act
    simp only [hset]
    cases t.setGroups user groups with
    | ok t' => exact ⟨rfl, rfl⟩
    | error trouble => exact ⟨rfl, hn⟩

theorem rehearse_eq_of_faces (ha : IsAscii s.accessToken) (hk : KeyStands identityHost s.user) {site : Site}
    (hn : site.network = t.realm.network) {actions : List Action}
    (hstand : ∀ o ∈ p.rehearse s site actions, KeyStands identityHost o.session.user) :
    p.rehearse s site actions = t.rehearse url.text p.data.allowedGroups.contains s actions := by
  -- An action leaves the realm of the tables it leaves, so the rest starts out as the whole did.
  induction actions generalizing t s site with
  | nil => rfl
  | cons a as ih =>
    obtain ⟨hvalue, hleft⟩ := act_eq_tables t hp ha hk hn a
    have haccess := p.act_accessToken s site a
    have hhead := hstand _ (List.mem_cons_self ..)
    have hrest := ih _ (haccess ▸ ha) hhead hleft fun o ho => hstand o (List.mem_cons_of_mem _ ho)
    rw [rehearse, Tables.rehearse, hrest, hvalue]

end Faces

/-- A provider that is made of two hosts faces every realm that is asked there. -/
theorem faces_make {signOnHost identityHost : String} (groups : List Text) {options : Options}
    (hprofile : options.profileUrl = none) (hvalidate : options.validateUrl = none)
    (hsignOn : Url.SteadyHost signOnHost)
    (hfit : (signOnUrl signOnHost "/auth/oauth2/tokeninfo").length ≤ Url.maxLength)
    (hidentity : Url.PlainHost identityHost) :
    ∃ url, Url.read (signOnUrl signOnHost "/auth/oauth2/tokeninfo") = .ok url ∧
      (make signOnHost identityHost groups options).Faces identityHost url := by
  obtain ⟨url, hread, htokenInfo⟩ := Url.read_tokenInfo hsignOn hfit
  obtain ⟨host, port, hrequests⟩ := requests_of_plainHost signOnHost groups options hidentity
  have haddress : (make signOnHost identityHost groups options).data.profileUrl =
      signOnUrl signOnHost "/auth/oauth2/tokeninfo" := by
    rw [make, hprofile]
    rfl
  have hsame : (make signOnHost identityHost groups options).data.validateUrl =
      (make signOnHost identityHost groups options).data.profileUrl := by
    rw [make, hvalidate]
    rfl
  refine ⟨url, hread, haddress ▸ hread, hsame, htokenInfo, fun key hkey => ?_⟩
  obtain ⟨hentry, hlisting⟩ := hrequests key hkey
  obtain ⟨entry, hmake, hurl⟩ := Request.make_get ⟨"http", "", host, port, Directory.sentPath key.toList, none, none⟩
  obtain ⟨listing, hmake', hurl'⟩ :=
    Request.make_get ⟨"http", "", host, port, Directory.sentPath (key.toList ++ "/groups".toList), none, none⟩
  refine ⟨entry, listing, hentry.trans hmake, hlisting.trans hmake', ⟨(Request.of_make_get hmake).1, ?_, ?_⟩,
    ⟨(Request.of_make_get hmake').1, ?_, ?_⟩⟩
  · rw [hurl]
  · rw [hurl]
  · rw [hurl']
  · rw [hurl']

end Provider

end SignOn
