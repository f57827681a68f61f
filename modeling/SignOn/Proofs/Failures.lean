import SignOn.Proofs.Run
import SignOn.Proofs.Membership
import SignOn.Proofs.Wholeness
import SignOn.Provider.Setup

/-!
Which errors leave an operation. An error that is not of the access layer has one of few causes: an address that cannot be
read, a token outside ASCII, a user key without bytes, or a reply that brings down the client that receives it or the
reader of its body.
-/

namespace SignOn

/-- Whether a token can stand in a header. -/
def IsAscii (token : Text) : Prop :=
  ∀ symbol ∈ token.symbols, Ascii.admits symbol = true

/-- A token that can stand in a header holds no halves. -/
theorem IsAscii.exists_whole {token : Text} (h : IsAscii token) : ∃ t : String, token = t := by
  cases token with
  | whole t => exact ⟨t, rfl⟩
  | torn front half back => exact absurd (h (.half half) (by simp [Text.symbols])) (by simp [Ascii.admits])

namespace Request

theorem headerRefusal?_bearerHeaders (token : Text) : headerRefusal? (bearerHeaders token) = none ↔ IsAscii token := by
  have haccept : Ascii.refusal? "Accept" = none ∧ Ascii.refusal? "application/json" = none ∧
      Ascii.refusal? "Authorization" = none := by decide
  have hbearer : Ascii.refusal? ("Bearer " ++ token) = none ↔ IsAscii token := by
    have hprefix : ∀ symbol ∈ Text.symbols "Bearer ", Ascii.admits symbol = true := List.all_eq_true.1 (by decide)
    rw [Ascii.refusal?, unencodable?_eq_none_iff, Text.symbols_append]
    constructor
    · intro h symbol hs
      exact h symbol (List.mem_append_right _ hs)
    · intro h symbol hs
      rcases List.mem_append.1 hs with hs | hs
      · exact hprefix symbol hs
      · exact h symbol hs
  rw [← hbearer]
  simp [headerRefusal?, bearerHeaders, haccept]

/-- A token outside ASCII cannot be sent in a header, and any other can. -/
theorem make_bearer_cases (method : String) (url : Url) (token : Text) :
    (IsAscii token ∧ ∃ request, make method url (bearerHeaders token) = .ok request) ∨
      (¬IsAscii token ∧ ∃ words, make method url (bearerHeaders token) = .error (.broken .unencodable words)) := by
  rw [← headerRefusal?_bearerHeaders]
  unfold make
  cases headerRefusal? (bearerHeaders token) with
  | none => exact .inl ⟨rfl, _, rfl⟩
  | some words => exact .inr ⟨by simp, words, rfl⟩

end Request

/-- Whether a text is no address. -/
def Url.Unreadable (text : String) : Prop :=
  ∃ fault, Url.read text = .error fault

namespace Network

/-- The reply that comes next where nobody stands behind the script. -/
def next (n : Network) : Reply :=
  n.script.headD .nobody

/-- The network after that reply. -/
def rest (n : Network) : Network :=
  { n with script := n.script.tail }

theorem ask_of_realm {n : Network} (h : n.realm = none) (request : Request) :
    n.ask request = (request.receive n.next, n.rest) := by
  obtain ⟨script, realm⟩ := n
  obtain rfl : realm = none := h
  cases script with
  | nil => rfl
  | cons reply script => rfl

end Network

namespace Resolver

variable (r : Resolver)

/-- A question about a token cannot be asked where the address cannot be read or the token cannot be sent. -/
theorem request_cases (token : Text) :
    (¬Url.Unreadable r.profileUrl ∧ IsAscii token ∧ ∃ request, r.request token = .ok request) ∨
      ((Url.Unreadable r.profileUrl ∨ ¬IsAscii token) ∧
        ∃ trouble, r.request token = .error trouble ∧ trouble.isFailure = false) := by
  unfold request Url.Unreadable
  cases Url.read r.profileUrl with
  | error fault => exact .inr ⟨.inl ⟨fault, rfl⟩, _, rfl, rfl⟩
  | ok url =>
    rcases Request.make_bearer_cases "GET" url token with ⟨ha, request, hm⟩ | ⟨ha, words, hm⟩
    · exact .inl ⟨by simp, ha, request, hm⟩
    · exact .inr ⟨.inr ha, _, hm, rfl⟩

/-- What a resolution breaks on. -/
def Brittle (s : Session) (n : Network) : Prop :=
  s.isResolved = false ∧ s.accessToken ≠ "" ∧
    (Url.Unreadable r.profileUrl ∨ ¬IsAscii s.accessToken ∨
      ∃ request, r.request s.accessToken = .ok request ∧ (n.ask request).1.Derails)

theorem breaks_ask_iff (timeout : Option Binary64) (request : Request) (site : Site) :
    Breaks (r.ask timeout request site).1 ↔ (site.network.ask request).1.Derails := by
  rw [ask, Exchange.fetch_apply, Exchange.breaks_judge_iff]

theorem breaks_resolve_iff (s : Session) (timeout : Option Binary64) (site : Site) :
    Breaks (r.resolve s timeout site).1.result ↔ r.Brittle s site.network := by
  have h := r.resolve_course s timeout site
  have hask := fun request => r.breaks_ask_iff timeout request site
  have hsent : ∀ request, r.request s.accessToken = .ok request →
      ¬Url.Unreadable r.profileUrl ∧ IsAscii s.accessToken := by
    intro request hr
    rcases r.request_cases s.accessToken with ⟨hurl, ha, -⟩ | ⟨-, trouble, hr', -⟩
    · exact ⟨hurl, ha⟩
    · exact absurd (hr.symm.trans hr') (by simp)
  generalize r.resolve s timeout site = o at h
  cases h with
  | known hs => simp [Brittle, hs]
  | noToken hs ht => simp [Brittle, ht]
  | noRequest hs ht hr =>
    rcases r.request_cases s.accessToken with ⟨-, -, request, hr'⟩ | ⟨hfault, trouble, hr', hbroken⟩
    · exact absurd (hr.symm.trans hr') (by simp)
    · obtain rfl := Except.error.inj (hr.symm.trans hr')
      refine iff_of_true ((breaks_error _).2 hbroken) ⟨hs, ht, ?_⟩
      exact hfault.imp_right .inl
  | @failed request trouble left hs ht hr ha =>
    have hbreaks := hask request
    rw [ha, breaks_error] at hbreaks
    simp [Brittle, hs, ht, hr, hsent request hr, hbreaks]
  | @incomplete request info left hs ht hr ha | @told request info left hs ht hr ha =>
    have hbreaks := hask request
    rw [ha] at hbreaks
    simp [Brittle, hr, hsent request hr, ← hbreaks]

end Resolver

namespace Directory

variable {α : Type} (d : Directory) (path : String)

theorem request_cases :
    (¬Url.Unreadable (d.baseUrl ++ path) ∧ ∃ request, d.request path [] = .ok request) ∨
      (Url.Unreadable (d.baseUrl ++ path) ∧
        ∃ trouble, d.request path [] = .error trouble ∧ trouble.isFailure = false) := by
  unfold request Url.Unreadable
  cases Url.read (d.baseUrl ++ path) with
  | error fault => exact .inr ⟨⟨fault, rfl⟩, _, rfl, rfl⟩
  | ok url => exact .inl ⟨by simp, _, rfl⟩

theorem breaks_fetch_iff (target : Target α) (timeout : Option Binary64) (site : Site) :
    Breaks (d.fetch path target none timeout site).1 ↔
      Url.Unreadable (d.baseUrl ++ path) ∨
        ∃ request, d.request path [] = .ok request ∧ (site.network.ask request).1.Derails := by
  rcases d.request_cases path with ⟨hurl, request, hr⟩ | ⟨hurl, trouble, hr, hbroken⟩
  · rw [d.fetch_of_request path target timeout site hr, Exchange.fetch_apply, Exchange.breaks_judge_iff,
      Site.noted_network]
    simp [hurl, hr]
  · rw [d.fetch_of_no_request path target timeout site hr]
    exact iff_of_true ((breaks_error _).2 hbroken) (.inl hurl)

end Directory

namespace GroupCheck

variable (c : GroupCheck) (userKey : Text) (key : String)

/-- What the lookup of a user's groups breaks on. -/
def BrittleGroups (n : Network) : Prop :=
  Url.Unreadable (c.directory.baseUrl ++ Directory.groupsPath key) ∨
    ∃ request, c.groupsRequest key = .ok request ∧ (n.ask request).1.Derails

/-- What the two lookups of a group check break on. The second counts only once the first has told an entry. -/
def BrittleLookups (n : Network) : Prop :=
  Url.Unreadable (c.directory.baseUrl ++ Directory.entryPath key) ∨
    ∃ request, c.entryRequest key = .ok request ∧
      ((n.ask request).1.Derails ∨
        (∃ entry, (n.ask request).1.Tells .directoryEntry entry) ∧ c.BrittleGroups key (n.ask request).2)

variable (timeout : Option Binary64) (site : Site)

theorem breaks_fetchProfile_iff :
    Breaks (c.fetchProfile key timeout site).1 ↔ c.BrittleLookups key site.network := by
  have hentry := c.directory.breaks_fetch_iff (Directory.entryPath key) .directoryEntry timeout site
  change Breaks (c.fetchEntry key timeout site).1 ↔
    _ ∨ ∃ first, c.entryRequest key = .ok first ∧ _ at hentry
  have hgroups : ∀ request entry between, c.entryRequest key = .ok request →
      c.fetchEntry key timeout site = (.ok entry, between) →
        (Breaks (c.fetchGroups key timeout between).1 ↔ c.BrittleGroups key (site.network.ask request).2) := by
    intro request entry between hr he
    have hbetween := c.directory.fetch_network (Directory.entryPath key) .directoryEntry timeout site hr
    rw [show c.directory.fetch _ _ none timeout site = _ from he] at hbetween
    rw [← hbetween]
    exact c.directory.breaks_fetch_iff (Directory.groupsPath key) .groups timeout between
  have htells : ∀ entry, (c.fetchEntry key timeout site).1 = .ok entry ↔
      ∃ first, c.entryRequest key = .ok first ∧ (site.network.ask first).1.Tells .directoryEntry entry :=
    c.directory.fetch_eq_ok_iff _ _ timeout site
  have h := c.fetchProfile_lookups key timeout site
  generalize c.fetchProfile key timeout site = o at h
  cases h with
  | torn hk => cases hk
  | noEntry hk he =>
    obtain rfl := Text.whole.inj hk
    rw [he] at hentry htells
    simp only [breaks_error] at hentry ⊢
    rw [hentry, BrittleLookups]
    constructor
    · rintro (hurl | ⟨first, hr, hd⟩)
      · exact .inl hurl
      · exact .inr ⟨first, hr, .inl hd⟩
    · rintro (hurl | ⟨first, hr, hd | ⟨⟨entry, ht⟩, -⟩⟩)
      · exact .inl hurl
      · exact .inr ⟨first, hr, hd⟩
      · -- an entry that was told leaves nothing for the first lookup to fail on
        cases (htells entry).2 ⟨first, hr, ht⟩
  | @noGroups _ entry trouble between left hk he hg | @told _ entry groups between left hk he hg =>
    obtain rfl := Text.whole.inj hk
    obtain ⟨first, hr, ht⟩ := (htells entry).1 (by rw [he])
    have hgroups := hgroups first entry between hr he
    rw [he] at hentry
    rw [hg] at hgroups
    -- the first lookup has told an entry, so that only the second can break
    have hlookups : c.BrittleLookups key site.network ↔ c.BrittleGroups key (site.network.ask first).2 := by
      simp only [breaks_ok, false_iff, not_or, not_exists, not_and] at hentry
      constructor
      · rintro (hurl | ⟨first', hr', hd⟩)
        · exact absurd hurl hentry.1
        · obtain rfl := Except.ok.inj (hr.symm.trans hr')
          exact (hd.resolve_left (hentry.2 first hr)).2
      · intro h
        exact .inr ⟨first, hr, .inr ⟨⟨entry, ht⟩, h⟩⟩
    rw [hlookups, ← hgroups]
    simp

/-- What a group check breaks on. A key with halves has no bytes to be looked up by. -/
def Brittle (n : Network) : Prop :=
  match userKey with
  | .whole key => key ≠ "" ∧ c.BrittleLookups key n
  | .torn .. => True

theorem breaks_isAuthorized_iff :
    Breaks (c.isAuthorized userKey timeout site).1 ↔ c.Brittle userKey site.network := by
  have h := c.isAuthorized_course userKey timeout site
  cases userKey with
  | torn front half back =>
    have hprofile : Breaks (c.fetchProfile (.torn front half back) timeout site).1 := (breaks_error _).2 rfl
    generalize c.isAuthorized (.torn front half back) timeout site = o at h
    cases h with
    | noKey hk => cases hk
    | granted hk hl | refused hk hl | denied hk hl | cancelled hk hl =>
      rw [hl] at hprofile
      simp at hprofile
    | broken hk hl ht => exact iff_of_true ((breaks_error _).2 ht) trivial
  | whole key =>
    have hprofile := c.breaks_fetchProfile_iff key timeout site
    generalize c.isAuthorized key timeout site = o at h
    cases h with
    | noKey hk =>
      obtain rfl := Text.whole.inj hk
      simp [Brittle]
    | granted hk hl | refused hk hl | denied hk hl | cancelled hk hl | broken hk hl =>
      rw [hl] at hprofile
      simp_all [Brittle]

/-- The only failure that a group check reports is that a request was given up. -/
theorem kind_of_isAuthorized {site : Site} {f : Failure} (h : (c.isAuthorized userKey timeout site).1 = .error (.failure f)) :
    f.kind = .cancelled := by
  have hc := c.isAuthorized_course userKey timeout site
  generalize c.isAuthorized userKey timeout site = o at h hc
  cases hc with
  | cancelled hk hl hf =>
    obtain rfl := Trouble.failure.inj (Except.error.inj h)
    exact hf
  | broken hk hl ht =>
    obtain rfl := Except.error.inj h
    cases ht
  | noKey | granted | refused | denied => cases h

end GroupCheck

/-- Whether an address is lost when its query is taken off. -/
def Url.NoEndpoint (text : String) : Prop :=
  ∃ url fault, Url.read text = .ok url ∧ url.withQuery none = .error fault

namespace Exchange

theorem tokenRequest_of_unread {address : String} {fault : Url.Fault} (h : Url.read address = .error fault)
    (token : Text) (headers : Table Text) : tokenRequest address token headers = .error (.ofUrlFault fault) := by
  rw [tokenRequest, h]
  rfl

/-- With headers, the token stays out of the address. -/
theorem tokenRequest_of_read {address : String} {url : Url} (h : Url.read address = .ok url) (token : Text) :
    tokenRequest address token (bearerHeaders token) = do
      let request ← Request.make "GET" url (bearerHeaders token)
      let endpoint ← (url.withQuery none).mapError .ofUrlFault
      return (request, endpoint.text) := by
  rw [tokenRequest, h]
  rfl

/-- A token check cannot be made where the address cannot be read, with its query or without, or the token cannot be
sent. -/
theorem tokenRequest_cases (address : String) (token : Text) :
    (∃ asked, tokenRequest address token (bearerHeaders token) = .ok asked) ∧
        ¬(Url.Unreadable address ∨ Url.NoEndpoint address ∨ ¬IsAscii token) ∨
      (Url.Unreadable address ∨ Url.NoEndpoint address ∨ ¬IsAscii token) ∧
        ∃ trouble, tokenRequest address token (bearerHeaders token) = .error trouble ∧ trouble.isFailure = false := by
  cases hurl : Url.read address with
  | error fault => exact .inr ⟨.inl ⟨fault, hurl⟩, _, tokenRequest_of_unread hurl token _, rfl⟩
  | ok url =>
    have hrequest := tokenRequest_of_read hurl token
    have hread : ¬Url.Unreadable address := by
      rintro ⟨fault, hf⟩
      exact absurd (hurl.symm.trans hf) (by simp)
    rcases Request.make_bearer_cases "GET" url token with ⟨ha, request, hm⟩ | ⟨ha, words, hm⟩
    · rw [hm] at hrequest
      cases he : url.withQuery none with
      | error fault =>
        rw [he] at hrequest
        exact .inr ⟨.inr (.inl ⟨url, fault, hurl, he⟩), _, hrequest, rfl⟩
      | ok endpoint =>
        rw [he] at hrequest
        refine .inl ⟨⟨_, hrequest⟩, ?_⟩
        rintro (hf | ⟨url', fault, hurl', hf⟩ | ha')
        · exact hread hf
        · obtain rfl := Except.ok.inj (hurl.symm.trans hurl')
          exact absurd (he.symm.trans hf) (by simp)
        · exact ha' ha
    · rw [hm] at hrequest
      exact .inr ⟨.inr (.inr ha), _, hrequest, rfl⟩

end Exchange

namespace Provider

variable (p : Provider)

/-- What a check of an access token breaks on. -/
def BrittleToken (s : Session) (n : Network) : Prop :=
  s.accessToken ≠ "" ∧ p.data.validateUrl ≠ "" ∧
    (Url.Unreadable p.data.validateUrl ∨ Url.NoEndpoint p.data.validateUrl ∨ ¬IsAscii s.accessToken ∨
      ∃ asked, Exchange.tokenRequest p.data.validateUrl s.accessToken (bearerHeaders s.accessToken) = .ok asked ∧
        (n.ask asked.1).1.DerailsToken)

theorem breaks_validateSession_iff (s : Session) (timeout : Option Binary64) (site : Site) :
    Breaks (p.validateSession s timeout site).1 ↔ p.BrittleToken s site.network := by
  have hcases := Exchange.tokenRequest_cases p.data.validateUrl s.accessToken
  have h := p.validateSession_course s timeout site
  generalize p.validateSession s timeout site = o at h
  unfold BrittleToken
  cases h with
  | nothing ht => rcases ht with ht | ht <;> simp [ht]
  | noRequest ht hr =>
    rcases hcases with ⟨⟨asked, hr'⟩, -⟩ | ⟨hfault, trouble, hr', hbroken⟩
    · exact absurd (hr.symm.trans hr') (by simp)
    · obtain rfl := Except.error.inj (hr.symm.trans hr')
      obtain ⟨htoken, hurl⟩ := not_or.1 ht
      refine iff_of_true ((breaks_error _).2 hbroken) ⟨htoken, hurl, ?_⟩
      rcases hfault with hf | hf | hf
      · exact .inl hf
      · exact .inr (.inl hf)
      · exact .inr (.inr (.inl hf))
  | judged ht hr =>
    rcases hcases with ⟨-, hfine⟩ | ⟨-, trouble, hr', -⟩
    · obtain ⟨htoken, hurl⟩ := not_or.1 ht
      obtain ⟨hread, hend, hascii⟩ := by simpa only [not_or] using hfine
      rw [Exchange.breaks_judgeToken_iff]
      simp [htoken, hurl, hread, hend, hascii, hr]
    · exact absurd (hr.symm.trans hr') (by simp)

/-- The only failure that a check of an access token reports is that the request was given up. -/
theorem kind_of_validateSession {s : Session} {timeout : Option Binary64} {site : Site} {f : Failure}
    (h : (p.validateSession s timeout site).1 = .error (.failure f)) : f.kind = .cancelled := by
  have hc := p.validateSession_course s timeout site
  have hcases := Exchange.tokenRequest_cases p.data.validateUrl s.accessToken
  generalize p.validateSession s timeout site = o at h hc
  cases hc with
  | nothing => cases h
  | noRequest ht hr =>
    obtain rfl := Except.error.inj h
    rcases hcases with ⟨⟨asked, hr'⟩, -⟩ | ⟨-, trouble, hr', hbroken⟩
    · exact absurd (hr.symm.trans hr') (by simp)
    · obtain rfl := Except.error.inj (hr.symm.trans hr')
      cases hbroken
  | judged => exact Exchange.kind_of_judgeToken h

/-- A refresh finds a next expiry as long as universal time can be shown a second later. -/
theorem exists_nextExpiry? {now : Instant} (hstart : 0 ≤ now + Moment.second)
    (hend : now + Moment.second < Moment.span) : ∃ expiry, nextExpiry? now = some expiry := by
  have hfits : ∀ later : Int, 0 ≤ later → later < Moment.span →
      0 ≤ later - later % Moment.second ∧ (later - later % Moment.second).toNat < Moment.span ∧
        ∀ ahead ∈ some (0 : Int), ahead.natAbs < Moment.day := by
    intro later hlow hhigh
    have hsecond : (Moment.second : Int) = 1000000 := rfl
    rw [hsecond]
    refine ⟨by omega, by omega, by decide⟩
  exact ⟨_, dif_pos (hfits (now + heartbeat) hstart hend)⟩

/-- What an operation breaks on. -/
def Brittle (op : Operation) (s : Session) (now : Instant) (n : Network) : Prop :=
  match op with
  | .getProfile | .getEmailAddress | .getUserName => p.resolver.Brittle s n
  | .validateSession => p.BrittleToken s n
  | .validateGroup => p.groupCheck.Brittle s.user n
  | .refresh => isDue s now = true ∧ p.groupCheck.Brittle s.user n

theorem breaks_refresh_iff (s : Session) {now : Instant} (timeout : Option Binary64) (site : Site)
    (hstart : 0 ≤ now) (hend : now + Moment.second < Moment.span) :
    Breaks (p.refresh s now timeout site).1.result ↔
      isDue s now = true ∧ p.groupCheck.Brittle s.user site.network := by
  have hcheck := p.groupCheck.breaks_isAuthorized_iff s.user timeout site
  change Breaks (p.validateGroup s timeout site).1 ↔ _ at hcheck
  have h := p.refresh_course s now timeout site
  generalize p.refresh s now timeout site = o at h
  cases h with
  | skipped hd => simp [hd]
  | beyond hd hc he =>
    have hsecond : (0 : Int) ≤ Moment.second := by decide
    obtain ⟨expiry, he'⟩ := exists_nextExpiry? (Int.add_nonneg hstart hsecond) hend
    exact absurd (he.symm.trans he') (by simp)
  | unanswered hd hc | lost hd hc | moved hd hc =>
    rw [hc] at hcheck
    rw [← hcheck]
    simp [hd]

end Provider

end SignOn
