import Mathlib.Algebra.GroupWithZero.Nat
import SignOn.Proofs.Bearer
import SignOn.Proofs.Resolving
import SignOn.Proofs.Verdicts

/-!
What an operation may spend: the requests that it can send, in their order, each a GET with the same time and each
answered by the next reply. Nothing is sent twice.
-/

namespace SignOn

theorem Network.ask_rest (n : Network) (request : Request) :
    (n.ask request).2 = { n with script := n.script.drop 1 } := by
  obtain ⟨_ | ⟨reply, script⟩, realm⟩ := n
  · cases realm with
    | none => rfl
    | some realm => rfl
  · rfl

namespace Site

/-- Whether requests went out one after another, all with the same time and each for the next reply. -/
structure Spends (site : Site) (requests : List Request) (timeout : Binary64) (left : Site) : Prop where
  sent : left.sent = site.sent ++ requests.map fun request => ⟨request, timeout⟩
  network : left.network = { site.network with script := site.network.script.drop requests.length }

namespace Spends

variable {site between left : Site} {requests later : List Request} {timeout : Binary64}

theorem nothing (site : Site) (timeout : Binary64) : site.Spends [] timeout site :=
  ⟨by simp, rfl⟩

theorem asked (site : Site) (request : Request) (timeout : Binary64) :
    site.Spends [request] timeout (site.asked request timeout) :=
  ⟨rfl, site.network.ask_rest request⟩

theorem noted (h : site.Spends requests timeout left) (entries : List Log.Entry) :
    site.Spends requests timeout (left.noted entries) :=
  ⟨by rw [noted_sent, h.sent], by rw [noted_network, h.network]⟩

theorem of_noted {entries : List Log.Entry} (h : (site.noted entries).Spends requests timeout left) :
    site.Spends requests timeout left :=
  ⟨by rw [h.sent, noted_sent], by rw [h.network, noted_network]⟩

theorem trans (h : site.Spends requests timeout between) (h' : between.Spends later timeout left) :
    site.Spends (requests ++ later) timeout left := by
  refine ⟨?_, ?_⟩
  · rw [h'.sent, h.sent, List.map_append, List.append_assoc]
  · rw [h'.network, h.network, List.drop_drop, List.length_append]

end Spends

end Site

namespace Exchange

theorem fetch_spends {α : Type} (request : Request) (target : Target α) (service : String) (timeout : Binary64)
    (site : Site) : site.Spends [request] timeout (fetch request target service timeout site).2 := by
  rw [fetch_apply]
  exact (Site.Spends.asked site request timeout).noted _

end Exchange

namespace Request

/-- A request without headers accepts anything. It shows nothing but the credentials of its address. -/
theorem valuesOf_of_make_bare {url : Url} {request : Request} (h : make "GET" url [] = .ok request) :
    request.url = url ∧ request.valuesOf "accept" = [] ∧ request.valuesOf "authorization" = (basic? url).toList := by
  have hhost : ∃ lead, hostHeader url [] = lead ∧ (lead = [] ∨ ∃ netloc, lead = [("host", netloc)]) := by
    refine ⟨_, rfl, ?_⟩
    unfold hostHeader
    split
    · exact .inl rfl
    · exact .inr ⟨_, rfl⟩
  have hlength : lengthHeader (String.ofList ("GET".toList.map Char.toUpper)) [] = [] := by decide
  obtain ⟨lead, hlead, hcases⟩ := hhost
  have hmade := Except.ok.inj h
  simp only [wholeHeaders, List.filterMap_nil, joinHeaders, List.foldl_nil, hlength, hlead, List.append_nil] at hmade
  subst hmade
  rcases hcases with rfl | ⟨netloc, rfl⟩ <;> cases basic? url <;> simp [valuesOf, Table.put, Table.has]

end Request

namespace Directory

variable {α : Type} (d : Directory) (path : String)

/-- A lookup shows nothing of any token. -/
theorem of_request {request : Request} (h : d.request path [] = .ok request) :
    request.method = "GET" ∧ request.valuesOf "accept" = [] ∧
      request.valuesOf "authorization" = (Request.basic? request.url).toList := by
  unfold Directory.request at h
  cases hurl : Url.read (d.baseUrl ++ path) with
  | error fault =>
    rw [hurl] at h
    cases h
  | ok url =>
    have hmade : Request.make "GET" url [] = .ok request := by
      rw [hurl] at h
      exact h
    obtain ⟨rfl, haccept, hauthorization⟩ := Request.valuesOf_of_make_bare hmade
    exact ⟨(Request.of_make_get hmade).1, haccept, hauthorization⟩

/-- A lookup sends its request, or fails because there is none. -/
theorem fetch_spends (target : Target α) (timeout : Option Binary64) {site left : Site} {result : Except Trouble α}
    (h : d.fetch path target none timeout site = (result, left)) :
    (∃ request, d.request path [] = .ok request ∧ site.Spends [request] (timeout.getD d.timeout) left) ∨
      (∃ trouble, d.request path [] = .error trouble ∧ result = .error trouble) ∧
        site.Spends [] (timeout.getD d.timeout) left := by
  have hc := d.fetch_course path target timeout site
  rw [h] at hc
  cases hc with
  | noAddress hr => exact .inr ⟨⟨_, hr, rfl⟩, (Site.Spends.nothing site _).noted _⟩
  | @judged request hr =>
    have hspends := Exchange.fetch_spends request target "directory" (timeout.getD d.timeout)
      (site.noted [lookupEntry path])
    rw [← d.fetch_of_request path target timeout site hr, h] at hspends
    exact .inl ⟨request, hr, hspends.of_noted⟩

end Directory

namespace GroupCheck

variable (c : GroupCheck) (userKey : Text)

/-- The requests that a group check can send. -/
def plan : List (Except Trouble Request) :=
  [c.entryRequest userKey, c.groupsRequest userKey]

/-- Whether a group check on a network gets to its second request exactly where the first is answered with an entry. -/
def Proceeds (n : Network) (requests : List Request) : Prop :=
  ∀ first ∈ requests.head?, requests.length = 2 ↔
    (∃ entry, (n.ask first).1.Tells .directoryEntry entry) ∧ ∃ second, c.groupsRequest userKey = .ok second

theorem proceeds_cons_iff {n : Network} {first : Request} {later : List Request} :
    c.Proceeds userKey n (first :: later) ↔ ((first :: later).length = 2 ↔
      (∃ entry, (n.ask first).1.Tells .directoryEntry entry) ∧ ∃ second, c.groupsRequest userKey = .ok second) := by
  simp [Proceeds]

variable (timeout : Option Binary64) (site : Site)

/-- The lookup of the entry succeeds exactly where its request is answered with one. -/
theorem exists_ok_fetchEntry_iff {key : String} {result : Except Trouble DirectoryEntry} {left : Site}
    {request : Request} (h : c.fetchEntry key timeout site = (result, left)) (hr : c.entryRequest key = .ok request) :
    (∃ entry, result = .ok entry) ↔ ∃ entry, (site.network.ask request).1.Tells .directoryEntry entry := by
  have hok := c.directory.fetch_eq_ok_iff (Directory.entryPath key) .directoryEntry timeout site
  rw [show c.directory.fetch (Directory.entryPath key) .directoryEntry none timeout site = (result, left)
    from h] at hok
  constructor
  · rintro ⟨entry, ho⟩
    obtain ⟨request', hr', ht⟩ := (hok entry).1 ho
    obtain rfl := Except.ok.inj (hr.symm.trans hr')
    exact ⟨entry, ht⟩
  · rintro ⟨entry, ht⟩
    exact ⟨entry, (hok entry).2 ⟨request, hr, ht⟩⟩

theorem fetchProfile_spends :
    ∃ requests, site.Spends requests (timeout.getD c.directory.timeout) (c.fetchProfile userKey timeout site).2 ∧
      requests.map .ok <+: c.plan userKey ∧ c.Proceeds userKey site.network requests := by
  have h := c.fetchProfile_lookups userKey timeout site
  generalize c.fetchProfile userKey timeout site = o at h
  cases h with
  | torn => exact ⟨[], .nothing site _, List.nil_prefix, nofun⟩
  | @noEntry key _ _ hk he =>
    subst hk
    rcases c.directory.fetch_spends _ _ timeout he with ⟨first, hr, hfirst⟩ | ⟨-, hfirst⟩
    · refine ⟨[first], hfirst, ⟨[c.groupsRequest key], by simp [plan, entryRequest_whole, hr]⟩, ?_⟩
      have htold := c.exists_ok_fetchEntry_iff timeout site he hr
      exact (c.proceeds_cons_iff key).2 (iff_of_false (by simp) fun hboth => by simpa using htold.2 hboth.1)
    · exact ⟨[], hfirst, List.nil_prefix, nofun⟩
  | @noGroups key entry _ between _ hk he hg | @told key entry _ between _ hk he hg =>
    subst hk
    rcases c.directory.fetch_spends _ _ timeout he with ⟨first, hr, hfirst⟩ | ⟨⟨_, -, hfail⟩, -⟩
    · have htold := (c.exists_ok_fetchEntry_iff timeout site he hr).1 ⟨entry, rfl⟩
      rcases c.directory.fetch_spends _ _ timeout hg with ⟨second, hr', hsecond⟩ | ⟨⟨_, hr', -⟩, hsecond⟩
      · refine ⟨[first, second], hfirst.trans hsecond,
          ⟨[], by simp [plan, entryRequest_whole, groupsRequest_whole, hr, hr']⟩, ?_⟩
        exact (c.proceeds_cons_iff key).2 (iff_of_true rfl ⟨htold, second, hr'⟩)
      · refine ⟨[first], hfirst.trans hsecond, ⟨[c.groupsRequest key], by simp [plan, entryRequest_whole, hr]⟩, ?_⟩
        refine (c.proceeds_cons_iff key).2 (iff_of_false (by simp) ?_)
        rintro ⟨-, second, hr''⟩
        exact absurd (hr'.symm.trans hr'') (by simp)
    · cases hfail

theorem isAuthorized_spends :
    ∃ requests, site.Spends requests (timeout.getD c.directory.timeout) (c.isAuthorized userKey timeout site).2 ∧
      requests.map .ok <+: c.plan userKey ∧ c.Proceeds userKey site.network requests := by
  obtain ⟨requests, hspends, hplan, hproceeds⟩ := c.fetchProfile_spends userKey timeout site
  have h := c.isAuthorized_course userKey timeout site
  generalize c.isAuthorized userKey timeout site = o at h
  cases h with
  | noKey => exact ⟨[], (Site.Spends.nothing site _).noted _, List.nil_prefix, nofun⟩
  | granted hk hl | refused hk hl | denied hk hl =>
    rw [hl] at hspends
    exact ⟨requests, hspends.noted _, hplan, hproceeds⟩
  | cancelled hk hl | broken hk hl =>
    rw [hl] at hspends
    exact ⟨requests, hspends, hplan, hproceeds⟩

theorem of_plan {request : Request} (h : .ok request ∈ c.plan userKey) :
    request.method = "GET" ∧ request.valuesOf "accept" = [] ∧
      request.valuesOf "authorization" = (Request.basic? request.url).toList := by
  cases userKey with
  | torn front half back =>
    rcases List.mem_pair.1 h with hr | hr
    · cases hr
    · cases hr
  | whole key =>
    rcases List.mem_pair.1 h with hr | hr
    · exact c.directory.of_request _ hr.symm
    · exact c.directory.of_request _ hr.symm

end GroupCheck

namespace Resolver

variable (r : Resolver) (timeout : Option Binary64) {site left : Site}

theorem ask_spends {request : Request} {result : Except Trouble TokenInfo}
    (h : r.ask timeout request site = (result, left)) : site.Spends [request] (timeout.getD r.timeout) left := by
  have hspends := Exchange.fetch_spends request .tokenInfo "tokeninfo" (timeout.getD r.timeout) site
  rw [ask] at h
  rwa [h] at hspends

theorem resolve_spends (s : Session) (site : Site) :
    ∃ requests, site.Spends requests (timeout.getD r.timeout) (r.resolve s timeout site).2 ∧
      requests.map .ok <+: [r.request s.accessToken] := by
  have h := r.resolve_course s timeout site
  generalize r.resolve s timeout site = o at h
  cases h with
  | known | noToken | noRequest => exact ⟨[], .nothing site _, List.nil_prefix⟩
  | failed hs ht hr ha => exact ⟨_, r.ask_spends timeout ha, [], by simp [hr]⟩
  | incomplete hs ht hr ha | told hs ht hr ha => exact ⟨_, (r.ask_spends timeout ha).noted _, [], by simp [hr]⟩

end Resolver

namespace Reply

/-- Whether a reply is a failed exchange that did not run out of time, or an answer that is no 200 and whose body can be
shown. -/
def Declines (reply : Reply) : Prop :=
  (∃ fault message, reply = .failed fault message ∧ fault.isTimeout = false) ∨
    ∃ r, reply = .answered r ∧ r.status ≠ 200 ∧ ¬r.IsUnshown

end Reply

namespace Exchange

/-- What the judgement of a token says of the reply. -/
theorem JudgedToken.iffs {endpoint : String} {reply : Reply} {result : Except Trouble Bool}
    (h : JudgedToken endpoint reply result) :
    (result = .ok true ↔ ∃ r, reply = .answered r ∧ r.status = 200) ∧
      ((∃ f, result = .error (.failure f) ∧ f.kind = .cancelled) ↔ reply.TimedOut) ∧
      (result = .ok false ↔ reply.Declines) := by
  cases h with
  | broken b => simp [Reply.TimedOut, Reply.Declines]
  | timedOut message hf =>
    refine ⟨by simp, ?_, by simp [Reply.Declines, hf]⟩
    exact iff_of_true ⟨_, rfl, rfl⟩ ((Reply.timedOut_failed_iff _ message).2 hf)
  | failed message hf => simp [Reply.Declines, hf]
  | accepted hs => simp [Reply.Declines, hs]
  | unshown hs hl => simp [Reply.Declines, hs, hl]
  | refused hs hl => simp [Reply.Declines, hs, hl]

theorem of_tokenRequest {address : String} {token : Text} {asked : Request × String}
    (h : tokenRequest address token (bearerHeaders token) = .ok asked) : asked.1.method = "GET" := by
  cases hurl : Url.read address with
  | error fault =>
    rw [tokenRequest_of_unread hurl] at h
    cases h
  | ok url =>
    rw [tokenRequest_of_read hurl] at h
    cases hm : Request.make "GET" url (bearerHeaders token) with
    | error trouble =>
      rw [hm] at h
      cases h
    | ok request =>
      cases he : url.withQuery none with
      | error fault =>
        rw [hm, he] at h
        cases h
      | ok endpoint =>
        rw [hm, he] at h
        obtain rfl := Except.ok.inj h
        exact (Request.of_make_get hm).1

end Exchange

namespace Provider

/-- How many requests an operation may send. -/
def Operation.budget : Operation → Nat
  | .getProfile | .getEmailAddress | .getUserName | .validateSession => 1
  | .validateGroup | .refresh => 2

variable (p : Provider)

/-- The request of a check of an access token. -/
def checkRequest (token : Text) : Except Trouble Request :=
  (Exchange.tokenRequest p.data.validateUrl token (bearerHeaders token)).map Prod.fst

/-- The requests that an operation can send, in their order. -/
def plan (s : Session) : Operation → List (Except Trouble Request)
  | .getProfile | .getEmailAddress | .getUserName => [p.resolver.request s.accessToken]
  | .validateSession => [p.checkRequest s.accessToken]
  | .validateGroup | .refresh => p.groupCheck.plan s.user

theorem length_plan (s : Session) (op : Operation) : (p.plan s op).length = op.budget := by
  cases op <;> rfl

theorem method_of_plan {s : Session} {op : Operation} {request : Request} (h : .ok request ∈ p.plan s op) :
    request.method = "GET" := by
  cases op with
  | getProfile | getEmailAddress | getUserName => exact p.resolver.request_method (List.mem_singleton.1 h).symm
  | validateSession =>
    have hr := (List.mem_singleton.1 h).symm
    unfold checkRequest at hr
    cases ht : Exchange.tokenRequest p.data.validateUrl s.accessToken (bearerHeaders s.accessToken) with
    | error trouble =>
      rw [ht] at hr
      cases hr
    | ok asked =>
      rw [ht] at hr
      obtain rfl := Except.ok.inj hr
      exact Exchange.of_tokenRequest ht
  | validateGroup | refresh => exact (p.groupCheck.of_plan s.user h).1

theorem refresh_spends (s : Session) (now : Instant) (timeout : Option Binary64) (site : Site) :
    ∃ requests, site.Spends requests (timeout.getD p.data.requestTimeout) (p.refresh s now timeout site).2 ∧
      requests.map .ok <+: p.groupCheck.plan s.user ∧ p.groupCheck.Proceeds s.user site.network requests := by
  obtain ⟨requests, hspends, hplan, hproceeds⟩ := p.groupCheck.isAuthorized_spends s.user timeout site
  change site.Spends requests _ (p.validateGroup s timeout site).2 at hspends
  have h := p.refresh_course s now timeout site
  generalize p.refresh s now timeout site = o at h
  cases h with
  | skipped => exact ⟨[], .nothing site _, List.nil_prefix, nofun⟩
  | unanswered hd hc | beyond hd hc =>
    rw [hc] at hspends
    exact ⟨requests, hspends, hplan, hproceeds⟩
  | lost hd hc | moved hd hc =>
    rw [hc] at hspends
    exact ⟨requests, hspends.noted _, hplan, hproceeds⟩

/-- What a check of an access token comes to on a network, by the requests that it sent. -/
structure TokenVerdict (s : Session) (n : Network) (requests : List Request) (o : Outcome Value) : Prop where
  session : o.session = s
  accepts_iff : o.result = .ok (.truth true) ↔
    s.accessToken ≠ "" ∧ ∃ request r, requests = [request] ∧ (n.ask request).1 = .answered r ∧ r.status = 200
  cancelled_iff : (∃ f, o.result = .error (.failure f) ∧ f.kind = .cancelled) ↔
    ∃ request, requests = [request] ∧ (n.ask request).1.TimedOut
  refuses_iff : o.result = .ok (.truth false) ↔
    (s.accessToken = "" ∨ p.data.validateUrl = "") ∨ ∃ request, requests = [request] ∧ (n.ask request).1.Declines
  asks : s.accessToken ≠ "" → p.data.validateUrl ≠ "" → IsAscii s.accessToken →
    ¬Url.Unreadable p.data.validateUrl → ¬Url.NoEndpoint p.data.validateUrl → requests.length = 1

theorem validateSession_spends (s : Session) (timeout : Option Binary64) (site : Site) :
    ∃ requests,
      site.Spends requests (timeout.getD p.data.requestTimeout) (p.validateSession s timeout site).2 ∧
        requests.map .ok <+: [p.checkRequest s.accessToken] ∧
          p.TokenVerdict s site.network requests ⟨s, (p.validateSession s timeout site).1.map .truth⟩ := by
  have hcases := Exchange.tokenRequest_cases p.data.validateUrl s.accessToken
  have h := p.validateSession_course s timeout site
  generalize p.validateSession s timeout site = o at h
  cases h with
  | nothing ht =>
    refine ⟨[], .nothing site _, List.nil_prefix, rfl, ?_, ?_, ?_, ?_⟩
    · simp [Except.map]
    · simp [Except.map]
    · simp [Except.map, ht]
    · intro htoken hurl
      exact absurd ht (not_or.2 ⟨htoken, hurl⟩)
  | @noRequest trouble ht hr =>
    rcases hcases with ⟨⟨asked, hr'⟩, -⟩ | ⟨hfault, trouble', hr', hbroken⟩
    · exact absurd (hr.symm.trans hr') (by simp)
    · obtain rfl := Except.error.inj (hr.symm.trans hr')
      have hkind : ∀ f, trouble ≠ .failure f := by
        rintro f rfl
        cases hbroken
      refine ⟨[], .nothing site _, List.nil_prefix, rfl, ?_, ?_, ?_, ?_⟩
      · simp [Except.map]
      · simp [Except.map, hkind]
      · simp [Except.map, ht]
      · intro _ _ hascii hread hend
        exact absurd hfault (by simp [hascii, hread, hend])
  | @judged request endpoint ht hr =>
    have hplan : [request].map .ok <+: [p.checkRequest s.accessToken] := by
      rw [checkRequest, hr]
      exact List.prefix_rfl
    refine ⟨[request], (Site.Spends.asked site request _).noted _, hplan, rfl, ?_, ?_, ?_, fun _ _ _ _ _ => rfl⟩
    all_goals
      obtain ⟨haccepts, hcancelled, hrefuses⟩ :=
        (Exchange.judgeToken_judged (site.network.ask request).1 endpoint).iffs
      dsimp only
      generalize (Exchange.judgeToken endpoint (site.network.ask request).1).2 = result at haccepts hcancelled hrefuses
    · cases result <;> simp_all [Except.map]
    · cases result <;> simp_all [Except.map]
    · cases result <;> simp_all [Except.map]

theorem perform_requests (op : Operation) (s : Session) (now : Instant) (timeout : Option Binary64) (site : Site) :
    ∃ requests, site.Spends requests (timeout.getD p.data.requestTimeout) (p.perform op s now timeout site).2 ∧
      requests.map .ok <+: p.plan s op ∧
      (op.asksDirectory = true → p.groupCheck.Proceeds s.user site.network requests) ∧
      (op = .validateSession → p.TokenVerdict s site.network requests (p.perform op s now timeout site).1) := by
  obtain ⟨resolved, hresolved, hplan⟩ := p.resolver.resolve_spends timeout s site
  cases op with
  | getProfile | getEmailAddress | getUserName => exact ⟨resolved, hresolved, hplan, nofun, nofun⟩
  | validateSession =>
    obtain ⟨requests, hspends, hplan, hverdict⟩ := p.validateSession_spends s timeout site
    exact ⟨requests, hspends, hplan, nofun, fun _ => hverdict⟩
  | validateGroup =>
    obtain ⟨requests, hspends, hplan, hproceeds⟩ := p.groupCheck.isAuthorized_spends s.user timeout site
    exact ⟨requests, hspends, hplan, fun _ => hproceeds, nofun⟩
  | refresh =>
    obtain ⟨requests, hspends, hplan, hproceeds⟩ := p.refresh_spends s now timeout site
    exact ⟨requests, hspends, hplan, fun _ => hproceeds, nofun⟩

theorem length_le_of_plan {s : Session} {op : Operation} {requests : List Request}
    (h : requests.map .ok <+: p.plan s op) : requests.length ≤ op.budget := by
  have hlength := h.length_le
  rwa [List.length_map, p.length_plan] at hlength

/-- The calls of a run that bring no replies of their own share those that are laid down for the run: each finds what
those before it have not taken, and takes no more than its budget. -/
theorem run_spends {s : Session} {site : Site} {calls : List Call} (hown : ∀ c ∈ calls, c.script = none)
    {before after : List Step} {st : Step} (hr : p.run s site calls = before ++ st :: after) :
    st.around.network =
        { site.network with script := site.network.script.drop (before.map fun st => st.sent.length).sum } ∧
      st.sent.length ≤ st.call.op.budget := by
  induction calls generalizing s site before with
  | nil => simp at hr
  | cons c cs ih =>
    have henter : c.enter site = { site.fresh with network := site.network } := by
      rw [Call.enter, hown c (List.mem_cons_self ..)]
      rfl
    obtain ⟨requests, hspends, hplan, -⟩ := p.perform_requests c.op s c.now c.timeout (c.enter site)
    have hsent : (p.step s site c).sent.length = requests.length := by
      rw [Step.sent, step_left, hspends.sent, henter]
      simp [Site.fresh]
    rw [run_cons] at hr
    cases before with
    | nil =>
      obtain ⟨rfl, -⟩ := List.cons.inj hr
      refine ⟨?_, hsent ▸ p.length_le_of_plan hplan⟩
      rw [step_around, henter]
      rfl
    | cons first before =>
      obtain ⟨rfl, hrest⟩ := List.cons.inj hr
      obtain ⟨hnetwork, hlast⟩ := ih (fun c hc => hown c (List.mem_cons_of_mem _ hc)) hrest
      refine ⟨?_, hlast⟩
      rw [hnetwork, step_left, hspends.network, henter, List.map_cons, List.sum_cons, hsent]
      simp [List.drop_drop]

end Provider

end SignOn
