import SignOn.Proofs.Answers

/-!
The outcome of a resolution. A session with email and user key is left alone. For any other the realm is asked once whom
the access token belongs to, and both parts of the answer are taken over; a missing email is a failure, a missing user
key is none. So a session is resolved for good only once it has a user key as well.
-/

namespace SignOn

theorem Session.isResolved_iff (s : Session) : s.isResolved = true ↔ s.email ≠ "" ∧ s.user ≠ "" := by
  simp [isResolved, and_comm]

theorem Session.isResolved_eq_false_iff (s : Session) : s.isResolved = false ↔ ¬(s.email ≠ "" ∧ s.user ≠ "") := by
  rw [← isResolved_iff, Bool.not_eq_true]

namespace Resolver

/-- The failure of a resolution that has no token to ask about. -/
def noToken : Failure where
  kind := .missingCredential
  code := "MISSING_CREDENTIAL"
  message := "missing access token"
  details := []

/-- The failure of a resolution whose answer holds no email. -/
def noEmail (user : Text) : Failure where
  kind := .profileIncomplete
  code := "PROFILE_INCOMPLETE"
  message := "can't find email"
  details := [("user", .str user)]

/-- What a resolution makes of what it is told about the token. Both parts of an answer are written, and an email that is
empty is the only one of them that counts as missing. -/
structure Takes (s : Session) (told : Except Trouble TokenInfo) (o : Outcome Unit) : Prop where
  raised : ∀ trouble, told = .error trouble → o = ⟨s, .error trouble⟩
  written : ∀ info, told = .ok info → o.session = { s with email := info.email, user := info.user }
  incomplete : ∀ info, told = .ok info → (o.result = .error (.failure (noEmail info.user)) ↔ info.email = "")
  complete : ∀ info, told = .ok info → info.email ≠ "" → o.result = .ok ()

theorem takes_error (s : Session) (trouble : Trouble) : Takes s (.error trouble) ⟨s, .error trouble⟩ := by
  constructor
  · intro other h
    rw [Except.error.inj h]
  all_goals
    intro info h
    cases h

theorem takes_info (s : Session) (info : TokenInfo) :
    Takes s (.ok info)
      ⟨Resolver.written s info, if info.email = "" then .error (.failure (noEmail info.user)) else .ok ()⟩ := by
  constructor
  · intro trouble h
    cases h
  · intro other h
    obtain rfl := Except.ok.inj h
    rfl
  · intro other h
    obtain rfl := Except.ok.inj h
    by_cases he : info.email = "" <;> simp [he]
  · intro other h he
    obtain rfl := Except.ok.inj h
    exact if_neg he

variable (r : Resolver) {s : Session} (timeout : Option Binary64) (site : Site)

/-- A session that is resolved is left as it is, and nothing is sent or written for it. -/
theorem resolve_of_isResolved (h : s.isResolved = true) : r.resolve s timeout site = (⟨s, .ok ()⟩, site) := by
  simp only [resolve, h, ↓reduceIte, Effect.pure_apply]

theorem resolve_of_no_token (h : s.isResolved = false) (ht : s.accessToken = "") :
    r.resolve s timeout site = (⟨s, .error (.failure noToken)⟩, site) := by
  simp only [resolve, h, ht, Bool.false_eq_true, ↓reduceIte, Effect.pure_apply]
  rfl

/-- A resolution that can put its question sends that and nothing else, and goes by what it is told. -/
theorem resolve_of_request (h : s.isResolved = false) (ht : s.accessToken ≠ "") {request : Request}
    (hr : r.request s.accessToken = .ok request) :
    (r.resolve s timeout site).2.sent = (r.ask timeout request site).2.sent ∧
      (r.resolve s timeout site).2.network = (r.ask timeout request site).2.network ∧
      Takes s (r.ask timeout request site).1 (r.resolve s timeout site).1 := by
  have hcourse := r.resolve_course s timeout site
  generalize r.resolve s timeout site = o at hcourse
  cases hcourse with
  | known hs => exact absurd (hs.symm.trans h) (by decide)
  | noToken _ ht' => exact absurd ht' ht
  | noRequest _ _ hr' => exact absurd (hr'.symm.trans hr) (by simp)
  | @failed request' trouble left _ _ hr' ha =>
    obtain rfl := Except.ok.inj (hr'.symm.trans hr)
    rw [ha]
    exact ⟨rfl, rfl, takes_error s trouble⟩
  | @incomplete request' info left _ _ hr' ha he =>
    obtain rfl := Except.ok.inj (hr'.symm.trans hr)
    have htakes := takes_info s info
    rw [if_pos he] at htakes
    rw [ha]
    exact ⟨Site.noted_sent .., Site.noted_network .., htakes⟩
  | @told request' info left _ _ hr' ha he =>
    obtain rfl := Except.ok.inj (hr'.symm.trans hr)
    have htakes := takes_info s info
    rw [if_neg he] at htakes
    rw [ha]
    exact ⟨Site.noted_sent .., Site.noted_network .., htakes⟩

theorem ask_network (request : Request) :
    (r.ask timeout request site).2.network = (site.network.ask request).2 := by
  rw [ask, Exchange.fetch_apply]
  simp

theorem request_method {token : Text} {request : Request} (h : r.request token = .ok request) :
    request.method = "GET" := by
  unfold Resolver.request at h
  cases hurl : Url.read r.profileUrl with
  | error fault =>
    rw [hurl] at h
    cases h
  | ok url =>
    rw [hurl] at h
    exact (Request.of_make_get h).1

end Resolver

namespace Provider

variable (p : Provider)

/-- The outcomes of a resolution. A session with email and user key is returned as it is, and nothing is sent. Any other
fails without an access token, and nothing is sent either. With a token that can be sent, and an address that can be
read, a single request goes out, a GET of that address that accepts JSON. It carries the token exactly where the address
names no user and no password, and these in its place otherwise. What the exchange raises is raised, and leaves the
session as it is; an answer has both its parts written, and is a failure if, and only if, its email is empty. The three
operations that resolve differ only in what they return when nothing is raised. -/
theorem resolution_outcomes (s : Session) (now : Instant) (timeout : Option Binary64) (site : Site) :
    let o := p.resolver.resolve s timeout site
    let given := timeout.getD p.data.requestTimeout
    (s.email ≠ "" ∧ s.user ≠ "" → o = (⟨s, .ok ()⟩, site)) ∧
      (¬(s.email ≠ "" ∧ s.user ≠ "") →
        (s.accessToken = "" → o = (⟨s, .error (.failure Resolver.noToken)⟩, site)) ∧
        ∀ url, s.accessToken ≠ "" → IsAscii s.accessToken → Url.read p.data.profileUrl = .ok url →
          ∃ request : Request, request.method = "GET" ∧ request.url = url ∧
            request.valuesOf "accept" = ["application/json"] ∧
            (request.valuesOf "authorization").map .whole = [Request.authorization url s.accessToken] ∧
            ((request.valuesOf "authorization").map .whole = ["Bearer " ++ s.accessToken] ↔ url.credentials = ("", "")) ∧
            o.2.sent = site.sent ++ [⟨request, given⟩] ∧ o.2.network = (site.network.ask request).2 ∧
            Resolver.Takes s (Exchange.fetch request .tokenInfo "tokeninfo" given site).1 o.1) ∧
      p.perform .getProfile s now timeout site = (⟨o.1.session, o.1.result.map fun _ => .nothing⟩, o.2) ∧
      p.perform .getEmailAddress s now timeout site =
        (⟨o.1.session, o.1.result.map fun _ => .text o.1.session.email⟩, o.2) ∧
      p.perform .getUserName s now timeout site =
        (⟨o.1.session, o.1.result.map fun _ => .text o.1.session.user⟩, o.2) := by
  intro o given
  refine ⟨?_, ?_, rfl, rfl, rfl⟩
  · intro hs
    exact p.resolver.resolve_of_isResolved timeout site (s.isResolved_iff.2 hs)
  intro hs
  have hn := s.isResolved_eq_false_iff.2 hs
  constructor
  · intro ht
    exact p.resolver.resolve_of_no_token timeout site hn ht
  intro url ht hascii hurl
  obtain ⟨request, hr⟩ : ∃ request, p.resolver.request s.accessToken = .ok request := by
    rcases p.resolver.request_cases s.accessToken with ⟨-, -, hr⟩ | ⟨hfault | hfault, -⟩
    · exact hr
    · obtain ⟨fault, hfault⟩ := hfault
      exact absurd (hurl.symm.trans hfault) (by simp)
    · exact absurd hascii hfault
  have hask := Resolver.asksAbout_of_request hr
  obtain rfl := Except.ok.inj (hask.read.symm.trans hurl)
  obtain ⟨hsent, hnetwork, htakes⟩ := p.resolver.resolve_of_request timeout site hn ht hr
  refine ⟨request, p.resolver.request_method hr, rfl, hask.accept, hask.authorization, hask.carries_iff, ?_, ?_, htakes⟩
  · exact hsent.trans (Resolver.ask_sent rfl)
  · exact hnetwork.trans (p.resolver.ask_network timeout site request)

/-- An email without a user key is asked about again, and lost to an answer that names a user key alone. -/
theorem resolution_outcomes_of_stale_email :
    let p := make "sso.example" "directory.example" [] {}
    let s : Session := { accessToken := "t", email := "old@example" }
    let site : Site := { network := { script := [.told "\x7b\x22dn\x22: \x22uid=j.doe\x22\x7d"] } }
    (p.resolver.resolve s none site).1.session = { s with email := "", user := "uid=j.doe" } ∧
      (p.resolver.resolve s none site).1.result = .error (.failure (Resolver.noEmail "uid=j.doe")) := by
  intro p s site
  have hurl : Url.read p.data.profileUrl =
      .ok ⟨"https", "", "sso.example", none, "/auth/oauth2/tokeninfo", some "realm=criteo", none⟩ := by decide +kernel
  have hpartly : ¬(s.email ≠ "" ∧ s.user ≠ "") := by decide
  have hascii : IsAscii s.accessToken := List.all_eq_true.1 (by decide)
  obtain ⟨-, hasks, -⟩ := p.resolution_outcomes s 0 none site
  obtain ⟨request, -, hrequest, -, -, -, -, -, htakes⟩ := (hasks hpartly).2 _ (by decide) hascii hurl
  have htype : Url.untyped? request.url.text = none := by
    rw [hrequest]
    decide +kernel
  have htold : (Exchange.fetch request .tokenInfo "tokeninfo" p.data.requestTimeout site).1 = .ok ⟨"", "uid=j.doe"⟩ := by
    rw [Exchange.fetch_apply, Exchange.judge_eq_ok_iff, Network.ask_cons, Request.receive_told htype]
    exact ⟨_, rfl, rfl, by decide +kernel⟩
  exact ⟨htakes.written _ htold, (htakes.incomplete _ htold).2 rfl⟩

/-- A resolution writes the identity that it is told, although its request carries the user and password of the address
in place of the token. -/
theorem resolution_asks_about_user_of_address :
    let p := make "sso.example" "directory.example" [] { profileUrl := some "https://u:p@sso.example/whoami" }
    let s : Session := { accessToken := "t" }
    let known := "\x7b\x22mail\x22: \x22j@example\x22, \x22dn\x22: \x22uid=j\x22\x7d"
    let o := p.resolver.resolve s none { network := { script := [.told known] } }
    o.1.session = { s with email := "j@example", user := "uid=j" } ∧
      o.2.sent.map (·.request.valuesOf "authorization") = [["Basic dTpw"]] ∧
      ¬∀ x ∈ o.2.sent, x.request.valuesOf "authorization" = ["Bearer t"] := by
  decide +kernel

theorem Step.Told.unique {p : Provider} {st : Step} {info info' : TokenInfo} (h : st.Told p info)
    (h' : st.Told p info') : info = info' := by
  obtain ⟨request, hr, -, htells⟩ := h
  obtain ⟨request', hr', -, htells'⟩ := h'
  obtain rfl := Except.ok.inj (hr.symm.trans hr')
  exact htells.unique htells'

section Resolved

variable {p} {s : Session}

/-- A call that resolves does nothing for a session that is resolved. -/
theorem step_of_isResolved (hs : s.isResolved = true) (site : Site) {c : Call} (hop : c.op.resolves = true) :
    (p.step s site c).left = (p.step s site c).around ∧ (p.step s site c).outcome = ⟨s, .ok (c.op.valueOf s)⟩ := by
  obtain ⟨houtcome, hleft⟩ := step_of_resolves (p := p) s site hop
  rw [houtcome, hleft, p.resolver.resolve_of_isResolved c.timeout (c.enter site) hs]
  exact ⟨rfl, rfl⟩

/-- A call that resolves and returns has found the session resolved, or was told an email. -/
theorem resolved_or_told_of_returns {site : Site} {c : Call} (hop : c.op.resolves = true)
    (hr : (p.step s site c).Returns) :
    s.isResolved = true ∧ (p.step s site c).outcome.session = s ∨
      s.isResolved = false ∧ s.accessToken ≠ "" ∧
        ∃ info, (p.step s site c).Told p info ∧ info.email ≠ "" ∧
          (p.step s site c).outcome.session = Resolver.written s info := by
  obtain ⟨v, hv⟩ := hr
  have hcourse := p.resolver.resolve_course s c.timeout (c.enter site)
  obtain ⟨houtcome, hleft⟩ := step_of_resolves (p := p) s site hop
  rw [houtcome] at hv ⊢
  generalize p.resolver.resolve s c.timeout (c.enter site) = o at hcourse hv hleft ⊢
  cases hcourse with
  | known hs => exact .inl ⟨hs, rfl⟩
  | noToken | noRequest | failed | incomplete => cases hv
  | @told request info left hs ht hr ha he =>
    refine .inr ⟨hs, ht, info, ⟨request, hr, ?_, Resolver.tells_of_ask ha⟩, he, rfl⟩
    rw [Step.sent, hleft, Site.noted_sent, Resolver.ask_sent ha]
    rfl

/-- A call that resolves asks about the token of a session that is not resolved. -/
theorem sent_of_token {site : Site} {c : Call} {request : Request} (hop : c.op.resolves = true)
    (hs : s.isResolved = false) (ht : s.accessToken ≠ "") (hr : p.resolver.request s.accessToken = .ok request) :
    (p.step s site c).sent = [⟨request, c.timeout.getD p.data.requestTimeout⟩] := by
  obtain ⟨hsent, -, -⟩ := p.resolver.resolve_of_request c.timeout (c.enter site) hs ht hr
  rw [Step.sent, (step_of_resolves s site hop).2]
  exact hsent.trans (Resolver.ask_sent rfl)

/-- A session that is resolved stays as it is all along a run of calls that resolve, and nothing is sent. -/
theorem run_of_isResolved (hs : s.isResolved = true) {site : Site} {calls : List Call}
    (hops : ∀ c ∈ calls, c.op.resolves = true) {st : Step} (hst : st ∈ p.run s site calls) :
    st.sent = [] ∧ st.left = st.around ∧ st.outcome.session = s ∧
      st.outcome.result = .ok (st.call.op.valueOf s) := by
  induction calls generalizing site with
  | nil => cases hst
  | cons c cs ih =>
    obtain ⟨hleft, houtcome⟩ := step_of_isResolved (p := p) hs site (hops c (by simp))
    rw [run_cons, houtcome] at hst
    rcases List.mem_cons.1 hst with rfl | hst
    · rw [houtcome]
      refine ⟨?_, hleft, rfl, rfl⟩
      rw [Step.sent, hleft]
      rfl
    · exact ih (fun c hc => hops c (by simp [hc])) hst

end Resolved

/-- Once is enough. A get-profile that returns leaves an email in the session, and a user key too unless that was just
asked for and not told. With both, no later call that resolves sends anything, raises anything or writes to the session,
and what is returned of it is not empty. Without a user key, each later call asks the same again. -/
theorem run_after_profile {s : Session} {site : Site} {c : Call} (hop : c.op = .getProfile)
    (hr : (p.step s site c).Returns) :
    let first := p.step s site c
    let known := first.outcome.session
    known.email ≠ "" ∧
      (known.user = "" ↔ s.isResolved = false ∧ ∃ info, first.Told p info ∧ info.user = "") ∧
      (known.user ≠ "" → ∀ site' calls, (∀ c' ∈ calls, c'.op.resolves = true) → ∀ st ∈ p.run known site' calls,
        st.sent = [] ∧ st.left = st.around ∧ st.outcome.session = known ∧
          st.outcome.result = .ok (st.call.op.valueOf known)) ∧
      (known.user = "" → ∀ site' c', c'.op.resolves = true →
        (p.step known site' c').sent.map (·.request) = first.sent.map (·.request) ∧ first.sent.length = 1) := by
  intro first known
  have hresolves : c.op.resolves = true := by rw [hop]; rfl
  rcases resolved_or_told_of_returns hresolves hr with ⟨hs, hknown⟩ | ⟨hs, ht, info, htold, he, hknown⟩
  · -- the call found everything
    obtain ⟨hemail, huser⟩ := s.isResolved_iff.1 hs
    have hknown : known = s := hknown
    rw [hknown]
    refine ⟨hemail, iff_of_false huser ?_, ?_, fun hnone => absurd hnone huser⟩
    · intro h
      exact absurd (hs.symm.trans h.1) (by decide)
    · intro _ site' calls hops st hst
      exact run_of_isResolved hs hops hst
  · -- the call was told what it left
    have hknown : known = Resolver.written s info := hknown
    rw [hknown]
    refine ⟨he, ?_, ?_, ?_⟩
    · constructor
      · intro huser
        exact ⟨hs, info, htold, huser⟩
      · intro h
        obtain ⟨-, info', htold', huser⟩ := h
        rw [htold.unique htold']
        exact huser
    · intro huser site' calls hops st hst
      have hs' := (Resolver.written s info).isResolved_iff.2 ⟨he, huser⟩
      exact run_of_isResolved hs' hops hst
    · intro huser site' c' hop'
      have hs' := (Resolver.written s info).isResolved_eq_false_iff.2 fun h => h.2 huser
      obtain ⟨request, hrequest, hsent, -⟩ := htold
      rw [sent_of_token hop' hs' ht hrequest, hsent]
      exact ⟨rfl, rfl⟩

/-- After a full answer, email and user key are read out of the session. -/
theorem run_after_profile_of_full_answer :
    let p := make "sso.example" "directory.example" [] {}
    let full := Reply.told "\x7b\x22mail\x22: \x22j.doe@example\x22, \x22dn\x22: \x22uid=j.doe\x22\x7d"
    let first := p.step { accessToken := "t" } { network := { script := [full] } } { op := .getProfile, now := 0 }
    let known := first.outcome.session
    known.email = "j.doe@example" ∧ known.user = "uid=j.doe" ∧
      ∀ st ∈ p.run known first.left [{ op := .getEmailAddress, now := 1 }, { op := .getUserName, now := 2 }],
        st.sent = [] ∧ st.outcome.session = known := by
  intro p full first known
  have hreturns : first.Returns := ⟨.nothing, by decide +kernel⟩
  have hemail : known.email = "j.doe@example" := by decide +kernel
  have hknown : known.user = "uid=j.doe" := by decide +kernel
  have huser : known.user ≠ "" := by
    rw [hknown]
    decide
  obtain ⟨-, -, hlater, -⟩ := p.run_after_profile rfl hreturns
  refine ⟨hemail, hknown, ?_⟩
  intro st hst
  obtain ⟨hsent, -, hsession, -⟩ := hlater huser first.left _ (by decide) st hst
  exact ⟨hsent, hsession⟩

/-- A get-profile that was told no user key returns, and its email is asked for again, here of nobody. -/
theorem run_after_profile_without_user :
    let p := make "sso.example" "directory.example" [] {}
    let partly := Reply.told "\x7b\x22mail\x22: \x22j.doe@example\x22\x7d"
    let first := p.step { accessToken := "t" } { network := { script := [partly] } } { op := .getProfile, now := 0 }
    let second := p.step first.outcome.session first.left { op := .getEmailAddress, now := 1 }
    first.outcome.result = .ok .nothing ∧ first.outcome.session.email = "j.doe@example" ∧
      second.sent.map (·.request) = first.sent.map (·.request) ∧ second.sent ≠ [] ∧
        second.outcome.result ≠ .ok (.text "j.doe@example") := by
  decide +kernel

end Provider

end SignOn
