import SignOn.Proofs.Courses

/-!
Runs: calls of a provider one after another on one session, which nobody else writes to. What a run keeps follows from
what a single step keeps.
-/

namespace SignOn.Provider

/-- A call of an operation: when it is made, how long its requests may take, and the replies that are laid down for it,
if any, in place of those that are left. -/
structure Call where
  op : Operation
  now : Instant
  timeout : Option Binary64 := none
  script : Option (List Reply) := none

/-- The surroundings that a call finds: nothing is sent or written yet. -/
def Call.enter (c : Call) (site : Site) : Site :=
  { site.fresh with network := { site.network with script := c.script.getD site.network.script } }

/-- A call in a run: the session and the surroundings that it finds, what comes of it, and the surroundings that it
leaves. -/
structure Step where
  call : Call
  found : Session
  around : Site
  outcome : Outcome Value
  left : Site

namespace Step

/-- Whether the call returns. -/
def Returns (st : Step) : Prop :=
  ∃ v, st.outcome.result = .ok v

def sent (st : Step) : List Sent := st.left.sent

def records (st : Step) : List Json.Members := st.left.records

end Step

/-- A call on a session. -/
def step (p : Provider) (s : Session) (site : Site) (c : Call) : Step :=
  let done := p.perform c.op s c.now c.timeout (c.enter site)
  ⟨c, s, c.enter site, done.1, done.2⟩

/-- The steps of some calls. Each finds the session as the one before has left it. -/
def run (p : Provider) (s : Session) (site : Site) : List Call → List Step
  | [] => []
  | c :: cs =>
    let st := p.step s site c
    st :: run p st.outcome.session st.left cs

variable (p : Provider)

@[simp] theorem step_call (s : Session) (site : Site) (c : Call) : (p.step s site c).call = c := rfl

@[simp] theorem step_found (s : Session) (site : Site) (c : Call) : (p.step s site c).found = s := rfl

@[simp] theorem step_around (s : Session) (site : Site) (c : Call) : (p.step s site c).around = c.enter site := rfl

theorem step_outcome (s : Session) (site : Site) (c : Call) :
    (p.step s site c).outcome = (p.perform c.op s c.now c.timeout (c.enter site)).1 := rfl

theorem step_left (s : Session) (site : Site) (c : Call) :
    (p.step s site c).left = (p.perform c.op s c.now c.timeout (c.enter site)).2 := rfl

@[simp] theorem run_nil (s : Session) (site : Site) : p.run s site [] = [] := rfl

@[simp] theorem run_cons (s : Session) (site : Site) (c : Call) (cs : List Call) :
    p.run s site (c :: cs) =
      p.step s site c :: p.run (p.step s site c).outcome.session (p.step s site c).left cs := rfl

@[simp] theorem map_call_run (s : Session) (site : Site) (calls : List Call) :
    (p.run s site calls).map Step.call = calls := by
  induction calls generalizing s site with
  | nil => rfl
  | cons c cs ih => simp [ih]

/-- A property of the steps so far and the session they lead to holds all along a run if each step keeps it. -/
theorem run_history {p : Provider} {calls : List Call} {I : List Step → Session → Prop}
    (hstep : ∀ past s site, ∀ c ∈ calls, I past s →
      I (past ++ [p.step s site c]) (p.step s site c).outcome.session)
    {past : List Step} {s : Session} {site : Site} (h : I past s)
    {before after : List Step} {st : Step} (hr : p.run s site calls = before ++ st :: after) :
    I (past ++ before) st.found ∧ ∃ site', st = p.step st.found site' st.call := by
  induction calls generalizing past s site before with
  | nil => simp at hr
  | cons c cs ih =>
    rw [run_cons] at hr
    cases before with
    | nil =>
      obtain ⟨rfl, -⟩ := List.cons.inj hr
      exact ⟨by simpa using h, site, rfl⟩
    | cons first before =>
      obtain ⟨hfirst, hrest⟩ := List.cons.inj hr
      subst hfirst
      have hkept := hstep past s site c (by simp) h
      have := ih (fun past s site c hc => hstep past s site c (by simp [hc])) hkept hrest
      simpa using this

/-- The clocks of a run never go back if those of its calls do not. -/
theorem now_le_of_run {p : Provider} {calls : List Call} {s : Session} {site : Site}
    (hclock : calls.Pairwise fun a b => a.now ≤ b.now) {before after : List Step} {st earlier : Step}
    (hr : p.run s site calls = before ++ st :: after) (he : earlier ∈ before) : earlier.call.now ≤ st.call.now := by
  have hcalls : calls = before.map Step.call ++ st.call :: after.map Step.call := by
    rw [← map_call_run p s site calls, hr, List.map_append, List.map_cons]
  rw [hcalls, List.pairwise_append] at hclock
  exact hclock.2.2 _ (List.mem_map_of_mem he) _ (by simp)

/-- A resolution writes neither tokens nor the expiry. -/
theorem resolve_session (r : Resolver) (s : Session) (timeout : Option Binary64) (site : Site) :
    ∃ email user, (r.resolve s timeout site).1.session = { s with email, user } := by
  have h := r.resolve_course s timeout site
  generalize r.resolve s timeout site = o at h
  cases h with
  | incomplete | told => exact ⟨_, _, rfl⟩
  | _ => exact ⟨s.email, s.user, rfl⟩

/-- A refresh writes the expiry and nothing else. -/
theorem refresh_session (s : Session) (now : Instant) (timeout : Option Binary64) (site : Site) :
    ∃ expiresOn, (p.refresh s now timeout site).1.session = { s with expiresOn } := by
  have h := p.refresh_course s now timeout site
  generalize p.refresh s now timeout site = o at h
  cases h with
  | moved => exact ⟨_, rfl⟩
  | _ => exact ⟨s.expiresOn, rfl⟩

/-- Only a refresh writes the expiry. -/
theorem perform_expiresOn {op : Operation} (hop : op ≠ .refresh) (s : Session) (now : Instant)
    (timeout : Option Binary64) (site : Site) :
    (p.perform op s now timeout site).1.session.expiresOn = s.expiresOn := by
  obtain ⟨email, user, h⟩ := resolve_session p.resolver s timeout site
  have hkept := congrArg Session.expiresOn h
  cases op with
  | getProfile | getEmailAddress | getUserName => exact hkept
  | validateSession | validateGroup => rfl
  | refresh => exact absurd rfl hop

/-- No operation writes a token. -/
theorem perform_tokens (op : Operation) (s : Session) (now : Instant) (timeout : Option Binary64) (site : Site) :
    (p.perform op s now timeout site).1.session.accessToken = s.accessToken ∧
      (p.perform op s now timeout site).1.session.refreshToken = s.refreshToken := by
  obtain ⟨email, user, hresolve⟩ := resolve_session p.resolver s timeout site
  obtain ⟨expiresOn, hrefresh⟩ := p.refresh_session s now timeout site
  have haccess := congrArg Session.accessToken hresolve
  have haccess' := congrArg Session.accessToken hrefresh
  have hrenew := congrArg Session.refreshToken hresolve
  have hrenew' := congrArg Session.refreshToken hrefresh
  cases op with
  | getProfile | getEmailAddress | getUserName => exact ⟨haccess, hrenew⟩
  | validateSession | validateGroup => exact ⟨rfl, rfl⟩
  | refresh => exact ⟨haccess', hrenew'⟩

end SignOn.Provider
