import SignOn.Proofs.Endpoint
import SignOn.Proofs.Forms
import SignOn.Proofs.Lookup

/-!
Where tokens show. Two runs on sessions that differ only in their tokens look the same to everyone who does not see the
bearer header.
-/

namespace SignOn

namespace Request

/-- A request without the value of its authorization header. -/
def masked (r : Request) : Request :=
  { r with headers := r.headers.map fun h => if h.1 = "authorization" then (h.1, "") else h }

theorem joinHeaders_bearerHeaders (token : String) :
    joinHeaders (wholeHeaders (bearerHeaders token)) =
      [("accept", "application/json"), ("authorization", "Bearer " ++ token)] := by
  have hwhole : wholeHeaders (bearerHeaders token) =
      [("Accept", "application/json"), ("Authorization", "Bearer " ++ token)] := rfl
  have haccept : String.ofList ("Accept".toList.map Char.toLower) = "accept" := by decide
  have hauthorization : String.ofList ("Authorization".toList.map Char.toLower) = "authorization" := by decide
  have hne : ("accept" : String) ≠ "authorization" := by decide
  simp only [hwhole, joinHeaders, List.foldl_cons, List.foldl_nil, haccept, hauthorization]
  simp [Table.put, Table.get?, Table.has]

/-- The requests for an address that carry a token in a header have all but that header in common. -/
theorem make_bearer (method : String) (url : Url) :
    ∃ method' lead, ∀ token : String, IsAscii token → make method url (bearerHeaders token) = .ok ⟨method', url,
      let all := lead ++ [("accept", "application/json"), ("authorization", "Bearer " ++ token)]
      (basic? url).elim all (Table.put all "authorization")⟩ := by
  refine ⟨String.ofList (method.toList.map Char.toUpper),
    hostHeader url [] ++ lengthHeader (String.ofList (method.toList.map Char.toUpper)) [], fun token ha => ?_⟩
  have hgiven : ∀ value, hostHeader url [("accept", "application/json"), ("authorization", value)] =
        hostHeader url [] ∧
      ∀ name, lengthHeader name [("accept", "application/json"), ("authorization", value)] = lengthHeader name [] := by
    intro value
    simp [hostHeader, lengthHeader, Table.has]
  unfold make
  rw [(headerRefusal?_bearerHeaders token).2 ha, joinHeaders_bearerHeaders]
  simp only [hgiven]
  cases basic? url with
  | none => rfl
  | some value => rfl

theorem masked_put (lead : Headers) (token value : String) :
    (Table.put (lead ++ [("accept", "application/json"), ("authorization", token)]) "authorization" value).map
        (fun h => if h.1 = "authorization" then (h.1, "") else h) =
      (lead ++ [("accept", "application/json"), ("authorization", "")]).map
        (fun h => if h.1 = "authorization" then (h.1, "") else h) := by
  have hhas : Table.has (lead ++ [("accept", "application/json"), ("authorization", token)]) "authorization" = true := by
    simp [Table.has]
  rw [Table.put, if_pos hhas, List.map_map]
  simp only [List.map_append, List.map_cons, List.map_nil]
  congr 1
  apply List.map_congr_left
  intro h _
  by_cases hn : h.1 = "authorization"
  · simp [hn]
  · simp [hn]

/-- What becomes of a reply is settled by the address that was asked. -/
theorem receive_congr {request request' : Request} (h : request.url = request'.url) (reply : Reply) :
    request.receive reply = request'.receive reply := by
  have htarget : request.target = request'.target := by
    funext location
    simp only [target, h]
  have hlead : request.lead = request'.lead := by
    funext r location
    simp only [lead, htarget]
  cases reply with
  | failed | broken => rfl
  | answered r => simp only [receive, h, hlead]

/-- Requests with bearer headers differ only in these. -/
theorem masked_make_bearer (method : String) (url : Url) {token token' : Text} (ha : IsAscii token)
    (ha' : IsAscii token') :
    ∃ request request', make method url (bearerHeaders token) = .ok request ∧
      make method url (bearerHeaders token') = .ok request' ∧ request.url = url ∧ request'.url = url ∧
        request.masked = request'.masked := by
  obtain ⟨method', lead, hmake⟩ := make_bearer method url
  obtain ⟨token, rfl⟩ := ha.exists_whole
  obtain ⟨token', rfl⟩ := ha'.exists_whole
  refine ⟨_, _, hmake token ha, hmake token' ha', rfl, rfl, ?_⟩
  unfold masked
  cases basic? url with
  | none => simp
  | some value => simp only [Option.elim_some, masked_put]

end Request

/-- A request that was sent, without the value of its authorization header. -/
def Sent.masked (s : Sent) : Sent :=
  { s with request := s.request.masked }

/-- A request puts nobody behind the script, and takes nobody away. -/
theorem Network.ask_realm (n : Network) (request : Request) : (n.ask request).2.realm = n.realm := by
  obtain ⟨script, realm⟩ := n
  cases script with
  | nil =>
    cases realm with
    | none => rfl
    | some realm => rfl
  | cons reply script => rfl

namespace Site

/-- Whether two surroundings are the same but for the values of authorization headers that were sent. -/
structure Alike (a b : Site) : Prop where
  network : a.network = b.network
  journal : a.journal = b.journal
  context : a.context = b.context
  records : a.records = b.records
  sent : a.sent.map Sent.masked = b.sent.map Sent.masked

theorem Alike.refl (a : Site) : Alike a a :=
  ⟨rfl, rfl, rfl, rfl, rfl⟩

variable {a b : Site}

theorem Alike.record (h : Alike a b) (entry : Log.Entry) : Alike (a.record entry) (b.record entry) := by
  obtain ⟨hn, hj, hc, hr, hs⟩ := h
  unfold Site.record
  rw [hj, hc, hr]
  split
  · exact ⟨hn, rfl, rfl, rfl, hs⟩
  · exact ⟨hn, hj, hc, hr, hs⟩

theorem Alike.noted (h : Alike a b) (entries : List Log.Entry) : Alike (a.noted entries) (b.noted entries) := by
  induction entries generalizing a b with
  | nil => exact h
  | cons entry entries ih => exact ih (h.record entry)

theorem realm_asked_noted (site : Site) (request : Request) (timeout : Binary64) (entries : List Log.Entry) :
    ((site.asked request timeout).noted entries).network.realm = site.network.realm := by
  rw [noted_network, asked_network, Network.ask_realm]

/-- Requests that differ only in their authorization header leave the same surroundings where the network does not look
at them. -/
theorem alike_asked (site : Site) (hrealm : site.network.realm = none) {request request' : Request}
    (h : request.masked = request'.masked) (timeout : Binary64) :
    Alike (site.asked request timeout) (site.asked request' timeout) := by
  refine ⟨?_, rfl, rfl, rfl, ?_⟩
  · rw [asked_network, asked_network, Network.ask_of_realm hrealm, Network.ask_of_realm hrealm]
  · simp [Sent.masked, h]

end Site

/-- Whether two sessions differ in nothing but their tokens, each of which is empty in both or in neither, and an access
token that can stand in a header. -/
structure Session.Agree (s s' : Session) : Prop where
  email : s.email = s'.email
  user : s.user = s'.user
  expiresOn : s.expiresOn = s'.expiresOn
  accessToken : s.accessToken = "" ↔ s'.accessToken = ""
  refreshToken : s.refreshToken = "" ↔ s'.refreshToken = ""
  ascii : IsAscii s.accessToken
  ascii' : IsAscii s'.accessToken

theorem Session.Agree.text_eq {s s' : Session} (h : s.Agree s') : s.text = s'.text := by
  unfold text
  simp only [h.email, h.user, h.expiresOn, h.accessToken, h.refreshToken]

/-- Whether two outcomes on agreeing sessions are the same. -/
structure Outcome.Alike {α : Type} (o o' : Outcome α × Site) : Prop where
  result : o.1.result = o'.1.result
  session : o.1.session.Agree o'.1.session
  site : o.2.Alike o'.2
  realm : o.2.network.realm = none

namespace Resolver

variable (r : Resolver) {s s' : Session} (timeout : Option Binary64) {site : Site}

theorem accept_alike (h : s.Agree s') (info : TokenInfo) {a b : Site} (hsite : a.Alike b)
    (hrealm : a.network.realm = none) : Outcome.Alike (accept s info a) (accept s' info b) := by
  have hwritten : (written s info).Agree (written s' info) := { h with email := rfl, user := rfl }
  by_cases he : info.email = ""
  · simp only [accept, he, ↓reduceIte, Effect.bind_apply, Site.note_apply, Effect.pure_apply]
    exact ⟨rfl, by simpa only [written, he] using hwritten, hsite.noted _, by simpa using hrealm⟩
  · simp only [accept, he, ↓reduceIte, Effect.bind_apply, Site.note_apply, Effect.pure_apply]
    exact ⟨rfl, hwritten, hsite.noted _, by simpa using hrealm⟩

/-- A resolution does not tell agreeing sessions apart. -/
theorem resolve_alike (h : s.Agree s') (hrealm : site.network.realm = none) :
    Outcome.Alike (r.resolve s timeout site) (r.resolve s' timeout site) := by
  have hresolved : s.isResolved = s'.isResolved := by rw [Session.isResolved, Session.isResolved, h.email, h.user]
  cases hs : s.isResolved with
  | true =>
    rw [hs] at hresolved
    simp only [resolve, hs, ← hresolved, ↓reduceIte, Effect.pure_apply]
    exact ⟨rfl, h, .refl site, hrealm⟩
  | false =>
    rw [hs] at hresolved
    by_cases ht : s.accessToken = ""
    · have ht' := h.accessToken.1 ht
      simp only [resolve, hs, ← hresolved, ht, ht', Bool.false_eq_true, ↓reduceIte, Effect.pure_apply]
      exact ⟨rfl, h, .refl site, hrealm⟩
    · have ht' : s'.accessToken ≠ "" := fun he => ht (h.accessToken.2 he)
      cases hurl : Url.read r.profileUrl with
      | error fault =>
        have hr : ∀ token, r.request token = .error (.ofUrlFault fault) := fun token => by
          rw [request, hurl]
          rfl
        simp only [resolve, hs, ← hresolved, ht, ht', hr, Bool.false_eq_true, ↓reduceIte, Effect.pure_apply]
        exact ⟨rfl, h, .refl site, hrealm⟩
      | ok url =>
        obtain ⟨request, request', hm, hm', hu, hu', hmasked⟩ := Request.masked_make_bearer "GET" url h.ascii h.ascii'
        have hr : r.request s.accessToken = .ok request := by
          rw [Resolver.request, hurl]
          exact hm
        have hr' : r.request s'.accessToken = .ok request' := by
          rw [Resolver.request, hurl]
          exact hm'
        have hreceive := Request.receive_congr (hu'.trans hu.symm)
        simp only [resolve, hs, ← hresolved, ht, ht', hr, hr', Bool.false_eq_true, ↓reduceIte, Effect.bind_apply,
          Exchange.fetch_apply, hu, hu', Network.ask_of_realm hrealm, hreceive]
        generalize Exchange.judge .tokenInfo "tokeninfo" url.text (request.receive site.network.next) = judged
        obtain ⟨remarks, result⟩ := judged
        have halike := (Site.alike_asked site hrealm hmasked (timeout.getD r.timeout)).noted
          (remarks.map Exchange.Remark.entry)
        have hkept : ((site.asked request (timeout.getD r.timeout)).noted
            (remarks.map Exchange.Remark.entry)).network.realm = none := by
          rw [Site.realm_asked_noted, hrealm]
        cases result with
        | error trouble => exact ⟨rfl, h, halike, hkept⟩
        | ok info => exact accept_alike h info halike hkept

end Resolver

theorem Directory.fetch_realm {α : Type} (d : Directory) (path : String) (target : Target α)
    (timeout : Option Binary64) (site : Site) :
    (d.fetch path target none timeout site).2.network.realm = site.network.realm := by
  have h := d.fetch_course path target timeout site
  generalize d.fetch path target none timeout site = o at h
  cases h with
  | noAddress => simp
  | judged => simp [Exchange.fetch_apply, Network.ask_realm]

theorem GroupCheck.isAuthorized_realm (c : GroupCheck) (userKey : Text) (timeout : Option Binary64) (site : Site) :
    (c.isAuthorized userKey timeout site).2.network.realm = site.network.realm := by
  have hprofile : (c.fetchProfile userKey timeout site).2.network.realm = site.network.realm := by
    have h := c.fetchProfile_lookups userKey timeout site
    generalize c.fetchProfile userKey timeout site = o at h
    cases h with
    | torn => rfl
    | @noEntry key _ _ hk he =>
      have hentry := c.directory.fetch_realm (Directory.entryPath key) .directoryEntry timeout site
      rw [fetchEntry] at he
      rwa [he] at hentry
    | @noGroups key _ _ between _ hk he hg | @told key _ _ between _ hk he hg =>
      have hentry := c.directory.fetch_realm (Directory.entryPath key) .directoryEntry timeout site
      have hgroups := c.directory.fetch_realm (Directory.groupsPath key) .groups timeout between
      rw [fetchEntry] at he
      rw [fetchGroups] at hg
      rw [he] at hentry
      rw [hg] at hgroups
      exact hgroups.trans hentry
  have h := c.isAuthorized_course userKey timeout site
  generalize c.isAuthorized userKey timeout site = o at h
  cases h with
  | noKey => simp
  | granted hk hl | refused hk hl | cancelled hk hl | denied hk hl | broken hk hl =>
    rw [hl] at hprofile
    simpa using hprofile

namespace Provider

variable (p : Provider) {s s' : Session} (timeout : Option Binary64) {site : Site}

/-- A check of an access token does not tell agreeing sessions apart. -/
theorem validateSession_alike (h : s.Agree s') (hrealm : site.network.realm = none) :
    (p.validateSession s timeout site).1 = (p.validateSession s' timeout site).1 ∧
      (p.validateSession s timeout site).2.Alike (p.validateSession s' timeout site).2 ∧
        (p.validateSession s timeout site).2.network.realm = none := by
  unfold validateSession
  by_cases ht : s.accessToken = "" ∨ p.data.validateUrl = ""
  · have ht' : s'.accessToken = "" ∨ p.data.validateUrl = "" := ht.imp_left h.accessToken.1
    rw [Exchange.validateToken_of_empty _ _ _ (by simpa using ht), Exchange.validateToken_of_empty _ _ _ (by simpa using ht')]
    exact ⟨rfl, .refl site, hrealm⟩
  · have hasked : ¬(s.accessToken = "" ∨ (some p.data.validateUrl).getD "" = "") := ht
    have hasked' : ¬(s'.accessToken = "" ∨ (some p.data.validateUrl).getD "" = "") := fun he =>
      ht (he.imp_left h.accessToken.2)
    cases hurl : Url.read p.data.validateUrl with
    | error fault =>
      rw [Exchange.validateToken_of_error _ _ hasked (Exchange.tokenRequest_of_unread hurl _ _),
        Exchange.validateToken_of_error _ _ hasked' (Exchange.tokenRequest_of_unread hurl _ _)]
      exact ⟨rfl, .refl site, hrealm⟩
    | ok url =>
      obtain ⟨request, request', hm, hm', hu, hu', hmasked⟩ := Request.masked_make_bearer "GET" url h.ascii h.ascii'
      have hreceive := Request.receive_congr (hu'.trans hu.symm)
      have hreq := Exchange.tokenRequest_of_read hurl s.accessToken
      have hreq' := Exchange.tokenRequest_of_read hurl s'.accessToken
      rw [hm] at hreq
      rw [hm'] at hreq'
      cases he : url.withQuery none with
      | error fault =>
        rw [he] at hreq hreq'
        rw [Exchange.validateToken_of_error _ _ hasked hreq, Exchange.validateToken_of_error _ _ hasked' hreq']
        exact ⟨rfl, .refl site, hrealm⟩
      | ok endpoint =>
        rw [he] at hreq hreq'
        rw [Exchange.validateToken_of_ok _ _ hasked hreq, Exchange.validateToken_of_ok _ _ hasked' hreq',
          Network.ask_of_realm hrealm, Network.ask_of_realm hrealm, hreceive]
        refine ⟨rfl, (Site.alike_asked site hrealm hmasked _).noted _, ?_⟩
        rw [Site.realm_asked_noted, hrealm]

/-- A refresh does not tell agreeing sessions apart, and sends the same requests for both. -/
theorem refresh_alike (h : s.Agree s') (now : Instant) (hrealm : site.network.realm = none) :
    Outcome.Alike (p.refresh s now timeout site) (p.refresh s' now timeout site) ∧
      (p.refresh s now timeout site).2.sent = (p.refresh s' now timeout site).2.sent := by
  have hdue : isDue s now = isDue s' now := by
    have hrenew : (s.refreshToken != "") = (s'.refreshToken != "") := by
      rw [Bool.eq_iff_iff]
      simp [h.refreshToken]
    simp only [isDue, Session.isExpired, h.expiresOn, hrenew]
  have hcheck : p.validateGroup s timeout = p.validateGroup s' timeout := by
    rw [validateGroup, validateGroup, h.user]
  have hkept := p.groupCheck.isAuthorized_realm s'.user timeout site
  change (p.validateGroup s' timeout site).2.network.realm = _ at hkept
  cases hd : isDue s' now with
  | false =>
    simp only [refresh, hdue, hd, Bool.false_eq_true, ↓reduceIte, Effect.pure_apply]
    exact ⟨⟨rfl, h, .refl site, hrealm⟩, trivial⟩
  | true =>
    simp only [refresh, hdue, hd, ↓reduceIte, Effect.bind_apply, hcheck]
    rcases hc : p.validateGroup s' timeout site with ⟨result, left⟩
    rw [hc, hrealm] at hkept
    cases result with
    | error trouble => exact ⟨⟨rfl, h, .refl left, hkept⟩, rfl⟩
    | ok b =>
      cases b with
      | false =>
        simp only [Effect.bind_apply, Site.note_apply, Effect.pure_apply, h.text_eq, h.email, h.user]
        exact ⟨⟨rfl, h, .refl _, by simpa using hkept⟩, trivial⟩
      | true =>
        cases he : nextExpiry? now with
        | none =>
          simp only [extend, he, Effect.pure_apply]
          exact ⟨⟨rfl, h, .refl left, hkept⟩, trivial⟩
        | some expiry =>
          have hextended : (extended s expiry).Agree (extended s' expiry) := { h with expiresOn := rfl }
          simp only [extend, he, Effect.bind_apply, Site.note_apply, Effect.pure_apply]
          have htext := hextended.text_eq
          unfold extended at hextended htext
          rw [htext, h.expiresOn]
          exact ⟨⟨rfl, hextended, .refl _, by simpa using hkept⟩, rfl⟩

/-- Whether an operation asks nobody but the directory. -/
def Operation.asksDirectory : Operation → Bool
  | .validateGroup | .refresh => true
  | _ => false

/-- An operation does not tell agreeing sessions apart; to the directory it sends the same requests for both. -/
theorem perform_alike (h : s.Agree s') (op : Operation) (now : Instant) (hrealm : site.network.realm = none) :
    Outcome.Alike (p.perform op s now timeout site) (p.perform op s' now timeout site) ∧
      (op.asksDirectory = true →
        (p.perform op s now timeout site).2.sent = (p.perform op s' now timeout site).2.sent) := by
  have hresolve := p.resolver.resolve_alike timeout h hrealm
  cases op with
  | getProfile =>
    refine ⟨⟨?_, hresolve.session, hresolve.site, hresolve.realm⟩, nofun⟩
    exact congrArg (Except.map fun _ => Value.nothing) hresolve.result
  | getEmailAddress =>
    refine ⟨⟨?_, hresolve.session, hresolve.site, hresolve.realm⟩, nofun⟩
    have hperform : ∀ s : Session, (p.perform .getEmailAddress s now timeout site).1.result =
        (p.resolver.resolve s timeout site).1.result.map fun _ =>
          .text (p.resolver.resolve s timeout site).1.session.email := fun _ => rfl
    rw [hperform, hperform, hresolve.result, hresolve.session.email]
  | getUserName =>
    refine ⟨⟨?_, hresolve.session, hresolve.site, hresolve.realm⟩, nofun⟩
    have hperform : ∀ s : Session, (p.perform .getUserName s now timeout site).1.result =
        (p.resolver.resolve s timeout site).1.result.map fun _ =>
          .text (p.resolver.resolve s timeout site).1.session.user := fun _ => rfl
    rw [hperform, hperform, hresolve.result, hresolve.session.user]
  | validateSession =>
    obtain ⟨hresult, hsite, hkept⟩ := p.validateSession_alike timeout h hrealm
    exact ⟨⟨congrArg (Except.map Value.truth) hresult, h, hsite, hkept⟩, nofun⟩
  | validateGroup =>
    have hcheck : p.validateGroup s timeout site = p.validateGroup s' timeout site := by
      rw [validateGroup, validateGroup, h.user]
    have hkept := p.groupCheck.isAuthorized_realm s.user timeout site
    refine ⟨⟨?_, h, ?_, hkept.trans hrealm⟩, fun _ => congrArg (·.2.sent) hcheck⟩
    · exact congrArg (fun o => Except.map Value.truth o.1) hcheck
    · show (p.validateGroup s timeout site).2.Alike (p.validateGroup s' timeout site).2
      rw [hcheck]
      exact .refl _
  | refresh =>
    obtain ⟨halike, hsent⟩ := p.refresh_alike timeout h now hrealm
    refine ⟨⟨?_, halike.session, halike.site, halike.realm⟩, fun _ => hsent⟩
    exact congrArg (Except.map Value.truth) halike.result

/-- What of a step shows to everyone who does not see bearer headers. -/
structure View where
  result : Except Trouble Value
  email : Text
  user : Text
  expiresOn : Option Moment
  /-- the text of the session -/
  text : Text
  records : List Json.Members
  /-- the requests, those to the directory as they are and others without the value of the authorization header -/
  sent : List Sent

def Step.view (st : Step) : View where
  result := st.outcome.result
  email := st.outcome.session.email
  user := st.outcome.session.user
  expiresOn := st.outcome.session.expiresOn
  text := st.outcome.session.text
  records := st.records
  sent := if st.call.op.asksDirectory then st.sent else st.sent.map Sent.masked

/-- A step on agreeing sessions shows the same, and leads to agreeing sessions. -/
theorem step_alike (h : s.Agree s') (c : Call) {a b : Site} (hn : a.network = b.network) (hj : a.journal = b.journal)
    (hc : a.context = b.context) (hrealm : a.network.realm = none) :
    (p.step s a c).view = (p.step s' b c).view ∧
      Outcome.Alike ((p.step s a c).outcome, (p.step s a c).left) ((p.step s' b c).outcome, (p.step s' b c).left) := by
  have henter : c.enter a = c.enter b := by
    unfold Call.enter Site.fresh
    rw [hn, hj, hc]
  have hkept : (c.enter b).network.realm = none := by
    rw [hn] at hrealm
    exact hrealm
  obtain ⟨halike, hsent⟩ := p.perform_alike c.timeout h c.op c.now hkept
  have hleft : (p.step s a c).left = (p.perform c.op s c.now c.timeout (c.enter b)).2 := by
    rw [step_left, henter]
  have houtcome : (p.step s a c).outcome = (p.perform c.op s c.now c.timeout (c.enter b)).1 := by
    rw [step_outcome, henter]
  refine ⟨?_, ?_⟩
  · unfold Step.view Step.records Step.sent
    rw [hleft, houtcome, step_left, step_outcome, step_call, step_call, halike.result, halike.session.email,
      halike.session.user, halike.session.expiresOn, halike.session.text_eq, halike.site.records]
    cases hop : c.op.asksDirectory with
    | true => simp only [if_true, hsent hop]
    | false => simp only [Bool.false_eq_true, if_false, halike.site.sent]
  · rw [hleft, houtcome]
    exact halike

theorem run_view {calls : List Call} (h : s.Agree s') {a b : Site} (hn : a.network = b.network)
    (hj : a.journal = b.journal) (hc : a.context = b.context) (hrealm : a.network.realm = none) :
    (p.run s a calls).map Step.view = (p.run s' b calls).map Step.view := by
  induction calls generalizing s s' a b with
  | nil => rfl
  | cons c calls ih =>
    obtain ⟨hview, halike⟩ := p.step_alike h c hn hj hc hrealm
    rw [run_cons, run_cons, List.map_cons, List.map_cons, hview,
      ih halike.session halike.site.network halike.site.journal halike.site.context halike.realm]

/-- Tokens show in nothing but the bearer header. Runs on sessions that agree in all but their tokens look the same step
by step, and so do checks of tokens in the query of an address that is not too long for either, where the reply can be
received for both. -/
theorem run_hides_tokens (p : Provider) {s s' : Session} (h : s.Agree s') {site : Site}
    (hrealm : site.network.realm = none) :
    (∀ calls, (p.run s site calls).map Step.view = (p.run s' site calls).map Step.view) ∧
      ∀ (address : Option String) (token token' : String) (timeout : Binary64), token ≠ "" → token' ≠ "" →
        (∀ url, Url.read (address.getD "") = .ok url →
          (url.tokenQuery token).length ≤ Url.maxLength ∧ (url.tokenQuery token').length ≤ Url.maxLength) →
        (∀ asked, Exchange.tokenRequest (address.getD "") token [] = .ok asked →
          asked.1.CanReceive site.network.next) →
        (∀ asked, Exchange.tokenRequest (address.getD "") token' [] = .ok asked →
          asked.1.CanReceive site.network.next) →
        (Exchange.validateToken address token [] timeout site).1 =
            (Exchange.validateToken address token' [] timeout site).1 ∧
          (Exchange.validateToken address token [] timeout site).2.records =
            (Exchange.validateToken address token' [] timeout site).2.records := by
  constructor
  · intro calls
    exact p.run_view h rfl rfl rfl hrealm
  · intro address token token' timeout ht ht' hfit hreceive hreceive'
    exact Exchange.validateToken_query address ht ht' hfit timeout hrealm hreceive hreceive'

/-- Two tokens before a debug journal: a resolution, a check of the token and a refresh look the same for both, and so
does a check of the token in a query. -/
theorem run_hides_tokens_of_two :
    let p := make "sso.example" "directory.example" ["eng"] {}
    let s : Session := { accessToken := "first", refreshToken := "r" }
    let s' : Session := { accessToken := "second", refreshToken := "renew" }
    let site : Site := { network := { script := [.told "[]", .nobody] }, journal := .writing 10 }
    let calls : List Call :=
      [{ op := .getEmailAddress, now := 0 }, { op := .validateSession, now := 1 }, { op := .refresh, now := 2 }]
    let address := some "https://sso.example/check?realm=a"
    (p.run s site calls).map Step.view = (p.run s' site calls).map Step.view ∧
      (Exchange.validateToken address "first" [] Exchange.defaultTimeout site).1 =
        (Exchange.validateToken address "second" [] Exchange.defaultTimeout site).1 := by
  intro p s s' site calls address
  have hagree : s.Agree s' := by
    refine ⟨rfl, rfl, rfl, by decide, by decide, ?_, ?_⟩
    · exact List.all_eq_true.1 (by decide)
    · exact List.all_eq_true.1 (by decide)
  have hfit : ∀ url, Url.read (address.getD "") = .ok url →
      (url.tokenQuery "first").length ≤ Url.maxLength ∧ (url.tokenQuery "second").length ≤ Url.maxLength := by
    intro url hurl
    have hread : Url.read (address.getD "") =
        .ok ⟨"https", "", "sso.example", none, "/check", some "realm=a", none⟩ := by decide +kernel
    obtain rfl := Except.ok.inj (hread.symm.trans hurl)
    decide +kernel
  have hrealm : site.network.realm = none := rfl
  have hreceive : ∀ token ∈ ["first", "second"], ∀ asked,
      Exchange.tokenRequest (address.getD "") token [] = .ok asked → asked.1.CanReceive site.network.next := by
    intro token htoken asked hasked
    refine Request.canReceive_told (Option.isNone_iff_eq_none.1 ?_) "[]"
    have htyped : ∀ token ∈ ["first", "second"], (Exchange.tokenRequest (address.getD "") token []).toOption.all
        (fun asked => (Url.untyped? asked.1.url.text).isNone) = true := by decide +kernel
    simpa [hasked, Except.toOption] using htyped token htoken
  obtain ⟨hrun, hquery⟩ := p.run_hides_tokens hagree hrealm
  exact ⟨hrun calls, (hquery address "first" "second" _ (by decide) (by decide) hfit (hreceive _ (by decide))
    (hreceive _ (by decide))).1⟩

end Provider

namespace Url

/-- The fragment of a part has no say in how the others are read. -/
theorem ofParts_fragment (parts : Parts) {cs : List Char} (h : ∀ c ∈ cs, keptInFragment c = true) {u : Url}
    (hu : ofParts { parts with fragment := none } = .ok u) :
    ofParts { parts with fragment := some cs } = .ok { u with fragment := some (String.ofList cs) } := by
  have hmap : ofParts { parts with fragment := some cs } =
      (ofParts { parts with fragment := none }).map fun u => { u with fragment := some (String.ofList cs) } := by
    rcases hcut : cutAuthorityParts parts.authority with ⟨userinfo, host, port⟩
    simp only [ofParts, hcut, Option.map_some, Percent.encodeAround_of_kept h]
    cases readHost host with
    | error fault => rfl
    | ok host =>
      cases readPort parts.scheme port with
      | error fault => rfl
      | ok port =>
        change (checkPath _ _ _ >>= _) = Except.map _ (checkPath _ _ _ >>= _)
        generalize checkPath _ _ _ = checked
        cases checked with
        | error fault => rfl
        | ok _ => rfl
  rw [hmap, hu]
  rfl
theorem plain_of_keptInFragment {c : Char} (h : keptInFragment c = true) : isPlain c = true := by
  rw [keptInFragment, Bool.and_eq_true] at h
  exact h.1

/-- A text that is nothing but a fragment is read as one. -/
theorem read_fragment {cs : List Char} (h : ∀ c ∈ cs, keptInFragment c = true) (hfit : cs.length < maxLength) :
    read (String.ofList ('#' :: cs)) = .ok ⟨"", "", "", none, "", none, some (String.ofList cs)⟩ := by
  have hplain : ∀ c ∈ '#' :: cs, isPlain c = true :=
    List.forall_mem_cons.2 ⟨by decide, fun c hc => plain_of_keptInFragment (h c hc)⟩
  have hparts : Parts.ofText ('#' :: cs) = ⟨[], [], [], none, some cs⟩ := rfl
  rw [read_of_isPlain hplain, if_neg (by rw [List.length_cons]; omega), hparts]
  exact ofParts_fragment ⟨[], [], [], none, none⟩ h rfl

end Url

namespace Request

/-- An address without a scheme is joined with the one that was asked. -/
theorem target_of_no_scheme {request : Request} (hnone : request.url.fragment = none) {place : Url}
    (hs : place.scheme = "") : request.target place = request.url.join place := by
  have habsolute : place.isAbsolute = false := by simp [Url.isAbsolute, hs]
  have hdecode : Percent.decode [] = [] := by decide
  cases hjoin : request.url.join place with
  | error fault => simp [target, hs, habsolute, hjoin, bind, Except.bind]
  | ok url => simp [target, hs, habsolute, hnone, hdecode, hjoin, bind, Except.bind]

/-- What becomes of an answer that leads to a fragment of the place that was asked. -/
theorem receive_fragment {request : Request} {front : List Char} (hurl : request.url.text = String.ofList front)
    (htype : Url.untyped? request.url.text = none) (hnone : request.url.fragment = none)
    {parts : Url.Parts} {u : Url} (hread : Url.ofParts { parts with fragment := none } = .ok u)
    {c : Char} {cs : List Char} (hplain : ∀ x ∈ front, Url.isPlain x = true)
    (hkept : ∀ x ∈ c :: cs, Url.keptInFragment x = true) (hfit : (c :: cs).length < Url.maxLength)
    (hjoin : Url.Join.text front ('#' :: c :: cs) = front ++ '#' :: c :: cs)
    (hparts : Url.Parts.ofText (front ++ '#' :: c :: cs) = { parts with fragment := some (c :: cs) })
    {r : Response} (hl : r.location? = some (String.ofList ('#' :: c :: cs))) :
    request.receive (.answered r) =
      if Url.maxLength < (front ++ '#' :: c :: cs).length then .broken ⟨.invalidAddress, Url.Fault.tooLong.message⟩
      else .answered r := by
  have hall : ∀ x ∈ front ++ '#' :: c :: cs, Url.isPlain x = true := by
    intro x hx
    rcases List.mem_append.1 hx with hx | hx
    · exact hplain x hx
    · rcases List.mem_cons.1 hx with rfl | hx
      · decide
      · exact Url.plain_of_keptInFragment (hkept x hx)
  have hown : (⟨"", "", "", none, "", none, some (String.ofList (c :: cs))⟩ : Url).text.toList = '#' :: c :: cs := by
    simp [Url.text, Url.authority, Url.netloc]
  have htarget : request.target ⟨"", "", "", none, "", none, some (String.ofList (c :: cs))⟩ =
      Url.read (String.ofList (front ++ '#' :: c :: cs)) := by
    rw [target_of_no_scheme hnone rfl, Url.join, hown, hurl, String.toList_ofList, hjoin]
  rw [Url.read_of_isPlain hall, hparts, Url.ofParts_fragment parts hkept hread] at htarget
  simp only [receive, htype, hl, Option.elim_some, lead, Url.read_fragment hkept hfit, htarget]
  by_cases hlong : Url.maxLength < (front ++ '#' :: c :: cs).length
  · simp only [if_pos hlong]
  · simp only [if_neg hlong]

end Request

/-- The place that an answer leads to keeps the query of the place that was asked. It can be too long for one token and
short enough for another, and then the checks of the two come to different ends. -/
theorem Exchange.validateToken_tells_length :
    let place := String.ofList ('#' :: 'f' :: List.replicate 65509 'f')
    let site : Site := { network := { script := [.answered ⟨302, [("location", place)], []⟩] } }
    (validateToken (some "http://h/c") "t" [] defaultTimeout site).1 = .ok false ∧
      (validateToken (some "http://h/c") "tt" [] defaultTimeout site).1 =
        .error (.broken .invalidAddress "URL too long") := by
  suffices h : ∀ cs : List Char, (∀ x ∈ cs, x = 'f') → cs.length = 65509 →
      let place := String.ofList ('#' :: 'f' :: cs)
      let site : Site := { network := { script := [.answered ⟨302, [("location", place)], []⟩] } }
      (validateToken (some "http://h/c") "t" [] defaultTimeout site).1 = .ok false ∧
        (validateToken (some "http://h/c") "tt" [] defaultTimeout site).1 =
          .error (.broken .invalidAddress "URL too long") from
    h _ (fun _ => List.eq_of_mem_replicate) (List.length_replicate ..)
  intro cs hcs hlength place site
  have hkept : ∀ x ∈ 'f' :: cs, Url.keptInFragment x = true := by
    refine List.forall_mem_cons.2 ⟨by decide, fun x hx => ?_⟩
    rw [hcs x hx]
    decide
  have hfit : ('f' :: cs).length < Url.maxLength := by
    rw [List.length_cons, hlength]
    decide
  have hl : Response.location? ⟨302, [("location", place)], []⟩ = some place := by
    simp [Response.location?, Response.header?]
  have hreq : tokenRequest "http://h/c" "t" [] =
      .ok (⟨"GET", ⟨"http", "", "h", none, "/c", some "access_token=t", none⟩, [("host", "h")]⟩, "http://h/c") := by
    decide +kernel
  have hreq' : tokenRequest "http://h/c" "tt" [] =
      .ok (⟨"GET", ⟨"http", "", "h", none, "/c", some "access_token=tt", none⟩, [("host", "h")]⟩, "http://h/c") := by
    decide +kernel
  constructor
  · rw [@validateToken_of_ok (some "http://h/c") "t" [] _ _ _ site (by decide) hreq, Network.ask_cons,
      @Request.receive_fragment _ "http://h/c?access_token=t".toList (by decide +kernel) (by decide +kernel) rfl
        ⟨"http".toList, "h".toList, "/c".toList, some "access_token=t".toList, none⟩
        ⟨"http", "", "h", none, "/c", some "access_token=t", none⟩ (by decide +kernel) 'f' cs
        (List.all_eq_true.1 (by decide)) hkept hfit rfl rfl _ hl,
      if_neg (by simp [hlength, Url.maxLength])]
    rfl
  · rw [@validateToken_of_ok (some "http://h/c") "tt" [] _ _ _ site (by decide) hreq', Network.ask_cons,
      @Request.receive_fragment _ "http://h/c?access_token=tt".toList (by decide +kernel) (by decide +kernel) rfl
        ⟨"http".toList, "h".toList, "/c".toList, some "access_token=tt".toList, none⟩
        ⟨"http", "", "h", none, "/c", some "access_token=tt", none⟩ (by decide +kernel) 'f' cs
        (List.all_eq_true.1 (by decide)) hkept hfit rfl rfl _ hl,
      if_pos (by simp [hlength, Url.maxLength])]
    rfl

end SignOn
