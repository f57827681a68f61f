import SignOn.Proofs.Failures
import SignOn.Proofs.Staleness

/-!
Who writes to a session. A resolution writes email and user key out of one answer, a refresh moves the expiry, and
nothing else is ever written. A call that fails leaves the session as it found it, unless all that it missed was an
email.
-/

namespace SignOn

namespace Resolver

variable {r : Resolver} {timeout : Option Binary64} {request : Request} {site left : Site}

theorem ask_sent {result : Except Trouble TokenInfo} (h : r.ask timeout request site = (result, left)) :
    left.sent = site.sent ++ [⟨request, timeout.getD r.timeout⟩] := by
  rw [ask, Exchange.fetch_apply] at h
  obtain ⟨-, rfl⟩ := Prod.mk.inj h
  simp

theorem tells_of_ask {info : TokenInfo} (h : r.ask timeout request site = (.ok info, left)) :
    (site.network.ask request).1.Tells .tokenInfo info := by
  rw [ask, Exchange.fetch_apply] at h
  exact (Exchange.judge_eq_ok_iff .tokenInfo "tokeninfo" request.url.text _ info).1 (Prod.mk.inj h).1

/-- That an email is missing is never told by the exchange itself. -/
theorem kind_of_ask {f : Failure} (h : r.ask timeout request site = (.error (.failure f), left)) :
    f.kind ≠ .profileIncomplete := by
  have hj := Exchange.judge_judged .tokenInfo "tokeninfo" request.url.text (site.network.ask request).1
  rw [ask, Exchange.fetch_apply] at h
  rw [(Prod.mk.inj h).1] at hj
  generalize (site.network.ask request).1 = reply at hj
  cases hj with
  | timedOut | failed | refused | misfit =>
    intro hk
    cases hk

end Resolver

namespace Provider

/-- Whether an operation fills in email and user key. -/
def Operation.resolves : Operation → Bool
  | .getProfile | .getEmailAddress | .getUserName => true
  | .validateSession | .validateGroup | .refresh => false

variable {p : Provider}

/-- What an operation that resolves returns for a session. -/
def Operation.valueOf (s : Session) : Operation → Value
  | .getEmailAddress => .text s.email
  | .getUserName => .text s.user
  | _ => .nothing

/-- Operations that resolve differ in the value that they return, and in nothing else. -/
theorem perform_of_resolves {op : Operation} (h : op.resolves = true) (s : Session) (now : Instant)
    (timeout : Option Binary64) (site : Site) :
    p.perform op s now timeout site =
      ((p.resolver.resolve s timeout site).1.map fun s r => r.map fun _ => op.valueOf s,
        (p.resolver.resolve s timeout site).2) := by
  cases op with
  | getProfile | getEmailAddress | getUserName => rfl
  | validateSession | validateGroup | refresh => cases h

theorem step_of_resolves (s : Session) (site : Site) {c : Call} (hop : c.op.resolves = true) :
    (p.step s site c).outcome =
        ((p.resolver.resolve s c.timeout (c.enter site)).1.map fun s r => r.map fun _ => c.op.valueOf s) ∧
      (p.step s site c).left = (p.resolver.resolve s c.timeout (c.enter site)).2 := by
  rw [step_outcome, step_left, perform_of_resolves hop]
  exact ⟨rfl, rfl⟩

namespace Step

variable (p : Provider) (st : Step)

/-- Whether a step sends a single request, the one that asks whom the token belongs to, and is told so. -/
def Told (info : TokenInfo) : Prop :=
  ∃ request, p.resolver.request st.found.accessToken = .ok request ∧
    st.sent = [⟨request, st.call.timeout.getD p.data.requestTimeout⟩] ∧
      (st.around.network.ask request).1.Tells .tokenInfo info

/-- Whether a step fails for want of an email. -/
def FallsShort : Prop :=
  ∃ f, st.outcome.result = .error (.failure f) ∧ f.kind = .profileIncomplete

/-- What a step can do to the session. -/
inductive Writes : Prop
  | nothing (hf : ¬st.FallsShort) (hs : st.outcome.session = st.found)
  | identity {info : TokenInfo} (hop : st.call.op.resolves = true) (hn : st.found.isResolved = false)
      (ht : st.Told p info) (hr : st.Returns) (hs : st.outcome.session = Resolver.written st.found info)
  | remnant {info : TokenInfo} (hop : st.call.op.resolves = true) (hn : st.found.isResolved = false)
      (ht : st.Told p info) (he : info.email = "")
      (hr : st.outcome.result = .error (.failure (.profileIncomplete info.user)))
      (hs : st.outcome.session = Resolver.written st.found info)
  | expiry {m : Moment} (hp : st.Passed p) (hr : st.Returns) (hs : st.outcome.session = extended st.found m)

variable {p st}

theorem not_fallsShort_of_returns (h : st.Returns) : ¬st.FallsShort := by
  obtain ⟨v, hv⟩ := h
  rintro ⟨f, hf, -⟩
  exact absurd (hv.symm.trans hf) (by simp)

end Step

theorem step_writes_of_resolves (s : Session) (site : Site) {c : Call} (hop : c.op.resolves = true) :
    (p.step s site c).Writes p := by
  obtain ⟨houtcome, hleft⟩ := step_of_resolves (p := p) s site hop
  have h := p.resolver.resolve_course s c.timeout (c.enter site)
  generalize p.resolver.resolve s c.timeout (c.enter site) = o at houtcome hleft h
  have hfails : ∀ trouble, o.1 = ⟨s, .error trouble⟩ → (∀ f, trouble = .failure f → f.kind ≠ .profileIncomplete) →
      (p.step s site c).Writes p := by
    intro trouble ho hkind
    refine .nothing ?_ (by rw [houtcome, ho]; rfl)
    rintro ⟨f, hf, hk⟩
    rw [houtcome, ho] at hf
    exact hkind f (Except.error.inj hf) hk
  have htold : ∀ request info left, p.resolver.request s.accessToken = .ok request →
      p.resolver.ask c.timeout request (c.enter site) = (.ok info, left) → o.2.sent = left.sent →
        (p.step s site c).Told p info := by
    intro request info left hr ha hsent
    refine ⟨request, hr, ?_, Resolver.tells_of_ask ha⟩
    rw [Step.sent, hleft, hsent, Resolver.ask_sent ha]
    rfl
  cases h with
  | known hs =>
    refine .nothing (Step.not_fallsShort_of_returns ⟨c.op.valueOf s, ?_⟩) (by rw [houtcome]; rfl)
    rw [houtcome]
    rfl
  | noToken hs ht =>
    refine hfails _ rfl ?_
    rintro f hf
    cases hf
    nofun
  | noRequest hs ht hr =>
    rcases p.resolver.request_cases s.accessToken with ⟨-, -, request, hr'⟩ | ⟨-, trouble, hr', hbroken⟩
    · exact absurd (hr.symm.trans hr') (by simp)
    · obtain rfl := Except.error.inj (hr.symm.trans hr')
      refine hfails _ rfl ?_
      rintro f rfl
      cases hbroken
  | failed hs ht hr ha =>
    refine hfails _ rfl ?_
    rintro f rfl
    exact Resolver.kind_of_ask ha
  | @incomplete request info left hs ht hr ha he =>
    refine .remnant hop hs (htold request info left hr ha (by simp)) he ?_ ?_
    · rw [houtcome]
      rfl
    · rw [houtcome]
      rfl
  | @told request info left hs ht hr ha he =>
    refine .identity hop hs (htold request info left hr ha (by simp)) ⟨c.op.valueOf (Resolver.written s info), ?_⟩ ?_
    · rw [houtcome]
      rfl
    · rw [houtcome]
      rfl

theorem step_writes_of_refresh (s : Session) (site : Site) {c : Call} (hop : c.op = .refresh) :
    (p.step s site c).Writes p := by
  have houtcome : (p.step s site c).outcome =
      (p.refresh s c.now c.timeout (c.enter site)).1.map fun _ r => r.map .truth := by
    rw [step_outcome, hop]
    rfl
  have h := p.refresh_course s c.now c.timeout (c.enter site)
  generalize p.refresh s c.now c.timeout (c.enter site) = o at houtcome h
  have hfails : ∀ trouble, o.1 = ⟨s, .error trouble⟩ → (∀ f, trouble = .failure f → f.kind ≠ .profileIncomplete) →
      (p.step s site c).Writes p := by
    intro trouble ho hkind
    refine .nothing ?_ (by rw [houtcome, ho]; rfl)
    rintro ⟨f, hf, hk⟩
    rw [houtcome, ho] at hf
    exact hkind f (Except.error.inj hf) hk
  cases h with
  | skipped hd =>
    refine .nothing (Step.not_fallsShort_of_returns ⟨.truth false, ?_⟩) (by rw [houtcome]; rfl)
    rw [houtcome]
    rfl
  | unanswered hd hc =>
    refine hfails _ rfl ?_
    rintro f rfl hk
    have hcancelled := p.groupCheck.kind_of_isAuthorized s.user c.timeout (congrArg Prod.fst hc)
    exact absurd (hcancelled.symm.trans hk) (by decide)
  | lost hd hc =>
    refine hfails _ rfl ?_
    rintro f hf
    cases hf
    nofun
  | beyond hd hc he =>
    refine hfails _ rfl ?_
    nofun
  | moved hd hc he =>
    refine .expiry ⟨hop, hd, congrArg Prod.fst hc⟩ ⟨.truth false, ?_⟩ (by rw [houtcome]; rfl)
    rw [houtcome]
    rfl

/-- Checks write nothing, and never fail for want of an email. -/
theorem step_writes_of_check (s : Session) (site : Site) {c : Call}
    (hop : c.op = .validateSession ∨ c.op = .validateGroup) :
    (p.step s site c).outcome.session = s ∧ ¬(p.step s site c).FallsShort := by
  have hfails : ∀ result : Except Trouble Bool, (∀ f, result = .error (.failure f) → f.kind = .cancelled) →
      ¬∃ f, result.map Value.truth = .error (.failure f) ∧ f.kind = .profileIncomplete := by
    rintro result hkind ⟨f, hf, hk⟩
    cases result with
    | ok b => cases hf
    | error trouble =>
      obtain rfl := Except.error.inj hf
      exact absurd ((hkind f rfl).symm.trans hk) (by decide)
  rw [Step.FallsShort, step_outcome]
  rcases hop with hop | hop
  · rw [hop]
    exact ⟨rfl, hfails _ fun f hf => p.kind_of_validateSession hf⟩
  · rw [hop]
    exact ⟨rfl, hfails _ fun f hf => p.groupCheck.kind_of_isAuthorized s.user c.timeout hf⟩

theorem step_writes (s : Session) (site : Site) (c : Call) : (p.step s site c).Writes p := by
  cases hop : c.op with
  | getProfile | getEmailAddress | getUserName => exact step_writes_of_resolves s site (by rw [hop]; rfl)
  | validateSession =>
    obtain ⟨hs, hf⟩ := step_writes_of_check (p := p) s site (.inl hop)
    exact .nothing hf hs
  | validateGroup =>
    obtain ⟨hs, hf⟩ := step_writes_of_check (p := p) s site (.inr hop)
    exact .nothing hf hs
  | refresh => exact step_writes_of_refresh s site hop

namespace Step.Writes

variable {st : Step}

/-- Nothing writes an identity over one that is complete. -/
theorem identity_kept (h : st.Writes p) (hs : st.found.isResolved = true) :
    st.outcome.session.email = st.found.email ∧ st.outcome.session.user = st.found.user := by
  cases h with
  | nothing hf hsame =>
    rw [hsame]
    exact ⟨rfl, rfl⟩
  | identity hop hn | remnant hop hn => exact absurd (hs.symm.trans hn) (by decide)
  | expiry hp hr hmoved =>
    rw [hmoved]
    exact ⟨rfl, rfl⟩

theorem tokens_kept (h : st.Writes p) :
    st.outcome.session.accessToken = st.found.accessToken ∧
      st.outcome.session.refreshToken = st.found.refreshToken := by
  cases h with
  | nothing hf hs | identity hop hn ht hr hs | remnant hop hn ht he hr hs | expiry hp hr hs =>
    rw [hs]
    exact ⟨rfl, rfl⟩

theorem of_identity (h : st.Writes p)
    (hne : st.outcome.session.email ≠ st.found.email ∨ st.outcome.session.user ≠ st.found.user) :
    st.call.op.resolves = true ∧ st.found.isResolved = false ∧
      ∃ info, st.Told p info ∧ st.outcome.session.email = info.email ∧ st.outcome.session.user = info.user := by
  cases h with
  | nothing hf hs => simp [hs] at hne
  | identity hop hn ht hr hs | remnant hop hn ht he hr hs =>
    refine ⟨hop, hn, _, ht, ?_, ?_⟩
    · rw [hs]
      rfl
    · rw [hs]
      rfl
  | expiry hp hr hs => simp [hs, extended] at hne

theorem of_expiry (h : st.Writes p) (hne : st.outcome.session.expiresOn ≠ st.found.expiresOn) :
    st.Passed p ∧ st.Returns := by
  cases h with
  | nothing hf hs | identity hop hn ht hr hs | remnant hop hn ht he hr hs =>
    rw [hs] at hne
    exact absurd rfl hne
  | expiry hp hr hs => exact ⟨hp, hr⟩

/-- A failed call takes everything back that it may have begun. -/
theorem of_failure (h : st.Writes p) (hr : ¬st.Returns) (hf : ¬st.FallsShort) : st.outcome.session = st.found := by
  cases h with
  | nothing _ hs => exact hs
  | identity hop hn ht hret => exact absurd hret hr
  | remnant hop hn ht he hfail => exact absurd ⟨_, hfail, rfl⟩ hf
  | expiry hp hret => exact absurd hret hr

theorem of_fallsShort (h : st.Writes p) (hf : st.FallsShort) :
    ∃ info, st.Told p info ∧ info.email = "" ∧
      st.outcome.session = { st.found with email := "", user := info.user } := by
  cases h with
  | nothing hn => exact absurd hf hn
  | identity hop hn ht hret => exact absurd hf (not_fallsShort_of_returns hret)
  | @remnant info hop hn ht he hr hs =>
    refine ⟨info, ht, he, ?_⟩
    rw [hs, Resolver.written, he]
  | expiry hp hret => exact absurd hf (not_fallsShort_of_returns hret)

end Step.Writes

/-- What holds of the steps so far and the session they lead to: it has the tokens of the first one, and the identity of
every one that was complete. -/
def Preserved (s : Session) (past : List Step) (now : Session) : Prop :=
  (now.accessToken = s.accessToken ∧ now.refreshToken = s.refreshToken) ∧
    ∀ old ∈ s :: past.map (·.outcome.session), old.isResolved = true → now.email = old.email ∧ now.user = old.user

theorem preserved_step {s : Session} {past : List Step} {now : Session} (h : Preserved s past now) (site : Site)
    (c : Call) : Preserved s (past ++ [p.step now site c]) (p.step now site c).outcome.session := by
  obtain ⟨⟨haccess, hrenew⟩, hold⟩ := h
  have hw := p.step_writes now site c
  obtain ⟨haccess', hrenew'⟩ := hw.tokens_kept
  refine ⟨⟨haccess'.trans haccess, hrenew'.trans hrenew⟩, ?_⟩
  intro old hin hres
  rw [List.map_append, ← List.cons_append, List.mem_append] at hin
  rcases hin with hin | hin
  · obtain ⟨hemail, huser⟩ := hold old hin hres
    have hnow : now.isResolved = true := by
      rw [Session.isResolved, hemail, huser]
      exact hres
    obtain ⟨hemail', huser'⟩ := hw.identity_kept hnow
    exact ⟨hemail'.trans hemail, huser'.trans huser⟩
  · obtain rfl := List.mem_singleton.1 hin
    exact ⟨rfl, rfl⟩

theorem run_preserved {s : Session} {site : Site} {calls : List Call} {before after : List Step} {st : Step}
    (hr : p.run s site calls = before ++ st :: after) :
    Preserved s before st.found ∧ ∃ site', st = p.step st.found site' st.call := by
  have hstart : Preserved s [] s := by
    refine ⟨⟨rfl, rfl⟩, fun old hin _ => ?_⟩
    obtain rfl := List.mem_singleton.1 hin
    exact ⟨rfl, rfl⟩
  exact run_history (I := Preserved s) (fun _ _ site c _ h => preserved_step h site c) hstart hr

/-- Who writes the session. Along every run the tokens stay as they were; email and user key are written by resolutions
only, both out of one answer and only where one of them was missing; the expiry by refreshes only, which then return and
whose check has let the user in. Checks write nothing, and neither does a call that fails, unless it missed an email. -/
theorem run_writes {s : Session} {site : Site} {calls : List Call} (before : List Step) {st : Step}
    {after : List Step} (hr : p.run s site calls = before ++ st :: after) :
    (st.outcome.session.accessToken = s.accessToken ∧ st.outcome.session.refreshToken = s.refreshToken) ∧
    (st.outcome.session.email ≠ st.found.email ∨ st.outcome.session.user ≠ st.found.user →
      st.call.op.resolves = true ∧ st.found.isResolved = false ∧
        ∃ info, st.Told p info ∧ st.outcome.session.email = info.email ∧ st.outcome.session.user = info.user) ∧
    (st.outcome.session.expiresOn ≠ st.found.expiresOn → st.Passed p ∧ st.Returns) ∧
    (st.call.op = .validateSession ∨ st.call.op = .validateGroup → st.outcome.session = st.found) ∧
    (¬st.Returns → ¬st.FallsShort → st.outcome.session = st.found) ∧
    (st.FallsShort → ∃ info, st.Told p info ∧ info.email = "" ∧
      st.outcome.session = { st.found with email := "", user := info.user }) ∧
    ∀ old ∈ s :: before.map (·.outcome.session), old.isResolved = true →
      st.outcome.session.email = old.email ∧ st.outcome.session.user = old.user := by
  obtain ⟨hfound, site', hst⟩ := run_preserved hr
  have hw : st.Writes p := hst ▸ p.step_writes st.found site' st.call
  have hleft : Preserved s (before ++ [st]) st.outcome.session := by
    have h := preserved_step (p := p) hfound site' st.call
    rwa [← hst] at h
  refine ⟨hleft.1, hw.of_identity, hw.of_expiry, ?_, hw.of_failure, hw.of_fallsShort, ?_⟩
  · intro hop
    have h := (step_writes_of_check (p := p) st.found site' hop).1
    rwa [← hst] at h
  · intro old hin hres
    refine hleft.2 old ?_ hres
    rw [List.map_append, ← List.cons_append]
    exact List.mem_append_left _ hin

/-- A resolution that misses an email, one that completes it, and a refresh whose check lets the user in. -/
theorem run_writes_of_three :
    let p := make "sso.example" "directory.example" ["eng"] {}
    let s : Session := { accessToken := "t", refreshToken := "r" }
    let partly := [Reply.told "\x7b\x22dn\x22: \x22uid=j.doe\x22\x7d"]
    let fully := [Reply.told "\x7b\x22mail\x22: \x22j.doe@example\x22, \x22dn\x22: \x22uid=j.doe\x22\x7d"]
    let known := [Reply.told "\x7b\x7d", Reply.told "[\x7b\x22name\x22: \x22eng\x22\x7d]"]
    let one : Call := { op := .getProfile, now := 0, script := partly }
    let two : Call := { op := .getUserName, now := 1, script := fully }
    let three : Call := { op := .refresh, now := 2, script := known }
    let first := p.step s {} one
    let second := p.step first.outcome.session first.left two
    let third := p.step second.outcome.session second.left three
    (∃ info, first.Told p info ∧ first.outcome.session = { s with user := info.user }) ∧
      (∃ info, second.Told p info ∧ second.outcome.session.email = info.email) ∧
        third.Passed p ∧ third.outcome.session.email = second.outcome.session.email := by
  intro p s partly fully known one two three first second third
  have hrun : p.run s {} [one, two, three] = [first, second, third] := by
    simp only [run_cons, run_nil, first, second, third]
  obtain ⟨-, -, -, -, -, hshort, -⟩ := run_writes [] hrun
  obtain ⟨-, hidentity, -⟩ := run_writes [first] hrun
  obtain ⟨-, -, hexpiry, -, -, -, hold⟩ := run_writes [first, second] hrun
  have hfails : first.outcome.result = .error (.failure (.profileIncomplete "uid=j.doe")) := by decide +kernel
  have hcompletes : second.outcome.session.email ≠ second.found.email := by decide +kernel
  have hmoves : third.outcome.session.expiresOn ≠ third.found.expiresOn := by decide +kernel
  have hresolved : second.outcome.session.isResolved = true := by decide +kernel
  refine ⟨?_, ?_, (hexpiry hmoves).1, (hold _ (by simp) hresolved).1⟩
  · obtain ⟨info, htold, -, hs⟩ := hshort ⟨_, hfails, rfl⟩
    exact ⟨info, htold, hs⟩
  · obtain ⟨-, -, info, htold, hemail, -⟩ := hidentity (.inl hcompletes)
    exact ⟨info, htold, hemail⟩

end Provider

end SignOn
