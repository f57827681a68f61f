import SignOn.Proofs.Secrecy
import SignOn.Proofs.Writes

/-!
What a question about a token carries. It carries the token itself wherever the address that is asked names no user and
no password. One that does has them sent in the token's place.
-/

namespace SignOn

namespace Request

/-- The values of a header. -/
def valuesOf (r : Request) (name : String) : List String :=
  (r.headers.filter fun h => h.1 == name).map (·.2)

/-- What goes out to authorize a request: the credentials of its address, or the token where it has none. -/
def authorization (url : Url) (token : Text) : Text :=
  (basic? url).elim ("Bearer " ++ token) .whole

theorem basic?_eq_none_iff (url : Url) : basic? url = none ↔ url.credentials = ("", "") := by
  unfold basic?
  rcases url.credentials with ⟨name, password⟩
  by_cases h : name = "" ∧ password = ""
  · simp [h]
  · simp [h]

/-- Credentials never read like a token. -/
theorem authorization_eq_iff (url : Url) (token : Text) :
    authorization url token = "Bearer " ++ token ↔ url.credentials = ("", "") := by
  rw [← basic?_eq_none_iff, authorization]
  cases hb : basic? url with
  | none => simp
  | some value =>
    have hvalue : ∃ pair, value = "Basic " ++ pair := by
      unfold basic? at hb
      split at hb
      split at hb
      · cases hb
      · exact ⟨_, (Option.some.inj hb).symm⟩
    obtain ⟨pair, rfl⟩ := hvalue
    refine iff_of_false ?_ (by simp)
    intro h
    have hletters := congrArg Text.symbols h
    rw [Option.elim_some, Text.symbols_append, Text.symbols_whole, String.toList_append] at hletters
    exact absurd (congrArg (List.take 2) hletters) (by simp)

/-- A request with bearer headers accepts JSON and carries the token, or in its place the credentials of the address. -/
theorem valuesOf_of_make_bearer {url : Url} {token : Text} {request : Request}
    (h : make "GET" url (bearerHeaders token) = .ok request) :
    request.url = url ∧ request.valuesOf "accept" = ["application/json"] ∧
      (request.valuesOf "authorization").map .whole = [authorization url token] := by
  rcases make_bearer_cases "GET" url token with ⟨ha, -⟩ | ⟨-, words, hm⟩
  · obtain ⟨token, rfl⟩ := ha.exists_whole
    have hhost : ∃ lead, hostHeader url [("accept", "application/json"), ("authorization", "Bearer " ++ token)] = lead ∧
        (lead = [] ∨ ∃ netloc, lead = [("host", netloc)]) := by
      refine ⟨_, rfl, ?_⟩
      unfold hostHeader
      split
      · exact .inl rfl
      · exact .inr ⟨_, rfl⟩
    have hlength : ∀ given, lengthHeader (String.ofList ("GET".toList.map Char.toUpper)) given = [] := fun given => by
      rw [show String.ofList ("GET".toList.map Char.toUpper) = "GET" by decide]
      simp [lengthHeader]
    unfold make at h
    rw [(headerRefusal?_bearerHeaders token).2 ha, joinHeaders_bearerHeaders] at h
    obtain ⟨lead, hlead, hcases⟩ := hhost
    simp only [hlength, hlead, List.append_nil] at h
    obtain rfl := Except.ok.inj h
    rcases hcases with rfl | ⟨netloc, rfl⟩ <;> cases hb : basic? url <;> simp [valuesOf, authorization, hb, Table.put, Table.has]
  · exact absurd (h.symm.trans hm) (by simp)

/-- Whether a request asks about a token at an address. The credentials of the address, if it has any, go out in place of
the token. -/
structure AsksAbout (request : Request) (address : String) (token : Text) : Prop where
  read : Url.read address = .ok request.url
  accept : request.valuesOf "accept" = ["application/json"]
  authorization : (request.valuesOf "authorization").map .whole = [Request.authorization request.url token]

theorem asksAbout_of_make {address : String} {token : Text} {url : Url} {request : Request} (hurl : Url.read address = .ok url)
    (h : make "GET" url (bearerHeaders token) = .ok request) : request.AsksAbout address token := by
  obtain ⟨rfl, haccept, hauthorization⟩ := valuesOf_of_make_bearer h
  exact ⟨hurl, haccept, hauthorization⟩

theorem AsksAbout.carries_iff {request : Request} {address : String} {token : Text} (h : request.AsksAbout address token) :
    (request.valuesOf "authorization").map .whole = ["Bearer " ++ token] ↔ request.url.credentials = ("", "") := by
  rw [h.authorization, List.singleton_inj]
  exact authorization_eq_iff request.url token

end Request

theorem Resolver.asksAbout_of_request {r : Resolver} {token : Text} {request : Request}
    (h : r.request token = .ok request) : request.AsksAbout r.profileUrl token := by
  unfold Resolver.request at h
  cases hurl : Url.read r.profileUrl with
  | error fault =>
    rw [hurl] at h
    cases h
  | ok url =>
    rw [hurl] at h
    exact Request.asksAbout_of_make hurl h

theorem Exchange.asksAbout_of_tokenRequest {address : String} {token : Text} {asked : Request × String}
    (h : tokenRequest address token (bearerHeaders token) = .ok asked) : asked.1.AsksAbout address token := by
  cases hurl : Url.read address with
  | error fault =>
    rw [tokenRequest_of_unread hurl] at h
    cases h
  | ok url =>
    rw [tokenRequest_of_read hurl] at h
    cases hm : Request.make "GET" url (bearerHeaders token) with
    | error trouble =>
      rw [hm] at h
      cases h
    | ok request =>
      cases he : url.withQuery none with
      | error fault =>
        rw [hm, he] at h
        cases h
      | ok endpoint =>
        rw [hm, he] at h
        obtain rfl := Except.ok.inj h
        exact Request.asksAbout_of_make hurl hm

namespace Provider

variable (p : Provider)

/-- The address where an operation asks about the token of a session. -/
def tokenAddress? : Operation → Option String
  | .getProfile | .getEmailAddress | .getUserName => some p.data.profileUrl
  | .validateSession => some p.data.validateUrl
  | .validateGroup | .refresh => none

variable {p}

/-- A resolution sends nothing, or one question about the token. -/
theorem step_sent_of_resolves (s : Session) (site : Site) {c : Call} (hop : c.op.resolves = true) :
    (p.step s site c).sent = [] ∨
      ∃ x, (p.step s site c).sent = [x] ∧ x.request.AsksAbout p.data.profileUrl s.accessToken := by
  rw [Step.sent, (step_of_resolves s site hop).2]
  have h := p.resolver.resolve_course s c.timeout (c.enter site)
  generalize p.resolver.resolve s c.timeout (c.enter site) = o at h
  have hfresh : (c.enter site).sent = [] := rfl
  cases h with
  | known | noToken | noRequest => exact .inl hfresh
  | failed hs ht hr ha | incomplete hs ht hr ha | told hs ht hr ha =>
    have hsent := Resolver.ask_sent ha
    rw [hfresh, List.nil_append] at hsent
    exact .inr ⟨_, by simpa using hsent, Resolver.asksAbout_of_request hr⟩

/-- A token check sends nothing, or one question about the token. Where it finds the token valid, that question was
answered with a 200. -/
theorem step_sent_of_validateSession (s : Session) (site : Site) {c : Call} (hop : c.op = .validateSession) :
    (p.step s site c).sent = [] ∧ (p.step s site c).outcome.result ≠ .ok (.truth true) ∨
      ∃ x, (p.step s site c).sent = [x] ∧ x.request.AsksAbout p.data.validateUrl s.accessToken ∧
        ((p.step s site c).outcome.result = .ok (.truth true) →
          ∃ r, ((c.enter site).network.ask x.request).1 = .answered r ∧ r.status = 200) := by
  have hresult : (p.step s site c).outcome.result = (p.validateSession s c.timeout (c.enter site)).1.map .truth := by
    rw [step_outcome, hop]
    rfl
  have hleft : (p.step s site c).left = (p.validateSession s c.timeout (c.enter site)).2 := by
    rw [step_left, hop]
    rfl
  rw [Step.sent, hresult, hleft]
  have h := p.validateSession_course s c.timeout (c.enter site)
  generalize p.validateSession s c.timeout (c.enter site) = o at h
  cases h with
  | nothing | noRequest => exact .inl ⟨rfl, fun htrue => by cases htrue⟩
  | @judged request endpoint ht hr =>
    refine .inr ⟨⟨request, c.timeout.getD p.data.requestTimeout⟩, by simp [Call.enter, Site.fresh],
      Exchange.asksAbout_of_tokenRequest hr, ?_⟩
    have hj := Exchange.judgeToken_judged ((c.enter site).network.ask request).1 endpoint
    dsimp only
    generalize (Exchange.judgeToken endpoint ((c.enter site).network.ask request).1).2 = result at hj ⊢
    generalize ((c.enter site).network.ask request).1 = reply at hj ⊢
    cases hj with
    | accepted hs => exact fun _ => ⟨_, rfl, hs⟩
    | broken | timedOut | failed | unshown | refused =>
      intro htrue
      cases htrue

theorem step_sent_of_tokenAddress? (s : Session) (site : Site) {c : Call} {address : String}
    (ha : p.tokenAddress? c.op = some address) :
    (p.step s site c).sent = [] ∨
      ∃ x, (p.step s site c).sent = [x] ∧ x.request.AsksAbout address s.accessToken := by
  cases hop : c.op with
  | getProfile | getEmailAddress | getUserName =>
    rw [hop] at ha
    obtain rfl := Option.some.inj ha
    exact step_sent_of_resolves s site (by rw [hop]; rfl)
  | validateSession =>
    rw [hop] at ha
    obtain rfl := Option.some.inj ha
    rcases step_sent_of_validateSession (p := p) s site hop with ⟨hs, -⟩ | ⟨x, hs, hx, -⟩
    · exact .inl hs
    · exact .inr ⟨x, hs, hx⟩
  | validateGroup | refresh =>
    rw [hop] at ha
    cases ha

/-- Whose token a run asks about. An operation that asks about a token sends a single request for that, which accepts
JSON. It carries the token that the session had from the start exactly where its address names no user and no password,
and these in its place otherwise. A token that is found valid, and an identity that is written, were told in answer to
that request. -/
theorem run_asks_about_token {s : Session} {site : Site} {calls : List Call} (before : List Step) {st : Step}
    {after : List Step} {address : String} (hr : p.run s site calls = before ++ st :: after)
    (ha : p.tokenAddress? st.call.op = some address) :
    st.sent.length ≤ 1 ∧
    (∀ x ∈ st.sent, Url.read address = .ok x.request.url ∧ x.request.valuesOf "accept" = ["application/json"] ∧
      (x.request.valuesOf "authorization").map .whole = [Request.authorization x.request.url s.accessToken] ∧
      ((x.request.valuesOf "authorization").map .whole = ["Bearer " ++ s.accessToken] ↔ x.request.url.credentials = ("", ""))) ∧
    (st.call.op = .validateSession → st.outcome.result = .ok (.truth true) →
      ∃ x, st.sent = [x] ∧ ∃ r, (st.around.network.ask x.request).1 = .answered r ∧ r.status = 200) ∧
    (st.outcome.session ≠ st.found →
      ∃ x info, st.sent = [x] ∧ (st.around.network.ask x.request).1.Tells .tokenInfo info ∧
        st.outcome.session = Resolver.written st.found info) := by
  obtain ⟨⟨⟨htoken, -⟩, -⟩, site', hst⟩ := run_preserved hr
  have hsent := step_sent_of_tokenAddress? (p := p) st.found site' ha
  rw [← hst, htoken] at hsent
  refine ⟨?_, ?_, ?_, ?_⟩
  · rcases hsent with hs | ⟨x, hs, -⟩ <;> simp [hs]
  · intro x hx
    rcases hsent with hs | ⟨x', hs, hask⟩
    · simp [hs] at hx
    · rw [hs] at hx
      obtain rfl := List.mem_singleton.1 hx
      exact ⟨hask.read, hask.accept, hask.authorization, hask.carries_iff⟩
  · intro hop htrue
    have hcheck := step_sent_of_validateSession (p := p) st.found site' hop
    have haround : st.around = st.call.enter site' := congrArg Step.around hst
    rw [← hst, ← haround] at hcheck
    rcases hcheck with ⟨-, hfalse⟩ | ⟨x, hs, -, hanswer⟩
    · exact absurd htrue hfalse
    · exact ⟨x, hs, hanswer htrue⟩
  · intro hne
    have hw : st.Writes p := hst ▸ p.step_writes st.found site' st.call
    cases hw with
    | nothing hf hs => exact absurd hs hne
    | identity hop hn ht hr hs | remnant hop hn ht he hr hs =>
      obtain ⟨request, -, hsent, htells⟩ := ht
      exact ⟨_, _, hsent, htells, hs⟩
    | expiry hp =>
      rw [hp.1] at ha
      cases ha

/-- An identity is written and its token found valid, at addresses without credentials. -/
theorem run_asks_about_token_of_two :
    let p := make "sso.example" "directory.example" [] {}
    let s : Session := { accessToken := "t" }
    let known := [Reply.told "\x7b\x22mail\x22: \x22j.doe@example\x22, \x22dn\x22: \x22uid=j.doe\x22\x7d"]
    let one : Call := { op := .getProfile, now := 0, script := known }
    let two : Call := { op := .validateSession, now := 1, script := some [.answered ⟨200, [], []⟩] }
    let first := p.step s {} one
    let second := p.step first.outcome.session first.left two
    (∃ x, first.sent = [x] ∧ x.request.valuesOf "authorization" = ["Bearer t"]) ∧
      ∃ x, second.sent = [x] ∧ x.request.valuesOf "authorization" = ["Bearer t"] := by
  intro p s known one two first second
  have hrun : p.run s {} [one, two] = [first, second] := by
    simp only [run_cons, run_nil, first, second]
  obtain ⟨-, hfirst, -, hwritten⟩ := run_asks_about_token [] hrun rfl
  obtain ⟨-, hsecond, hvalid, -⟩ := run_asks_about_token [first] hrun rfl
  have hchanged : first.outcome.session ≠ first.found := by decide +kernel
  have htrue : second.outcome.result = .ok (.truth true) := by decide +kernel
  have hplain : ∀ x ∈ first.sent ++ second.sent, x.request.url.credentials = ("", "") := by decide +kernel
  have hwhole {values : List String} : values.map Text.whole = [.whole "Bearer t"] → values = ["Bearer t"] :=
    fun h => (@List.map_inj_right _ _ values ["Bearer t"] Text.whole fun _ _ => Text.whole.inj).1 h
  obtain ⟨x, info, hx, -⟩ := hwritten hchanged
  obtain ⟨y, hy, -⟩ := hvalid rfl htrue
  refine ⟨⟨x, hx, ?_⟩, y, hy, ?_⟩
  · exact hwhole ((hfirst x (by simp [hx])).2.2.2.2 (hplain x (by simp [hx])))
  · exact hwhole ((hsecond y (by simp [hy])).2.2.2.2 (hplain y (by simp [hy])))

/-- A token is found valid although the request carries the user and password of the address in its place. -/
theorem run_asks_about_user_of_address :
    let p := make "sso.example" "directory.example" [] { validateUrl := some "https://u:p@sso.example/check" }
    let c : Call := { op := .validateSession, now := 0, script := some [.answered ⟨200, [], []⟩] }
    let st := p.step { accessToken := "t" } {} c
    p.run { accessToken := "t" } {} [c] = [st] ∧ st.outcome.result = .ok (.truth true) ∧
      st.sent.map (·.request.valuesOf "authorization") = [["Basic dTpw"]] ∧
        ¬∀ x ∈ st.sent, x.request.valuesOf "authorization" = ["Bearer t"] := by
  intro p c st
  exact ⟨rfl, by decide +kernel, by decide +kernel, by decide +kernel⟩

end Provider

end SignOn
