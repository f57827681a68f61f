import SignOn.Proofs.Replies
import SignOn.Proofs.CallSites
import SignOn.Proofs.Wholeness
import SignOn.Service.Basic

/-!
How a request is handled. What it comes to depends on nothing but the request, the clock and the network; the id, the
context and the journal only dress it up.
-/

namespace SignOn.Service

open Effect

variable (s : Service) (p : Provider) (c : Call) (payload : SessionPayload) (now : Instant)

/-- A call over the web is the operation, perhaps with the user written into the context before it, and a conclusion that
only makes marks. -/
theorem perform_eq : ∃ conclude : Outcome Provider.Value → Effect (Except Trouble Json.Members),
    (s.perform p c payload now =
      if c = .authorize ∨ c = .refresh then
        setUser payload.session >>= fun _ => p.perform c.operation payload.session now none >>= conclude
      else p.perform c.operation payload.session now none >>= conclude) ∧
    ∀ o, ∃ marks, ∀ site, conclude o site = (o.result.map (c.members · o.session), site.marked marks) := by
  refine ⟨_, rfl, fun o => ?_⟩
  cases o.result with
  | error trouble => exact ⟨[], fun _ => rfl⟩
  | ok v =>
    have hreject : ∃ marks, ∀ site,
        (if c = .validate ∧ v = .truth false then
          Site.note .info s.name "Session token rejected" [("user", .str payload.user)] >>= fun _ =>
            pure (.ok (c.members v o.session))
        else pure (.ok (c.members v o.session)) : Effect (Except Trouble Json.Members)) site =
          (.ok (c.members v o.session), site.marked marks) := by
      split
      · exact ⟨[.entry _], fun _ => rfl⟩
      · exact ⟨[], fun _ => rfl⟩
    dsimp only
    split
    · obtain ⟨marks, hmarks⟩ := hreject
      exact ⟨.user o.session :: marks, fun site => hmarks (site.mark (.user o.session))⟩
    · exact hreject

/-- A call over the web leaves the trace of the operation, apart from marks, and tells what the operation comes to. -/
theorem perform_trace (n : Network) : ∃ (t : Trace (Outcome Provider.Value)) (marks : List Site.Mark),
    (∀ site : Site, site.network = n → p.perform c.operation payload.session now none site = (t.value, site.after t)) ∧
      ∀ site : Site, site.network = n → s.perform p c payload now site =
        (t.value.result.map (c.members · t.value.session), site.after { t with marks }) := by
  obtain ⟨t, ht⟩ := (p.traced_perform payload.session now none c.operation).trace n
  obtain ⟨conclude, heq, hconclude⟩ := s.perform_eq p c payload now
  obtain ⟨marks, hmarks⟩ := hconclude t.value
  have hinner : ∀ site : Site, site.network = n → (p.perform c.operation payload.session now none >>= conclude) site =
      (t.value.result.map (c.members · t.value.session), site.after { t with marks := t.marks ++ marks }) := by
    intro site hsite
    rw [bind_apply, ht site hsite, hmarks, Site.after_marked]
  rw [heq]
  split
  · -- the user is a mark in front of the trace, which is the same on the surroundings behind it
    refine ⟨t, .user payload.session :: (t.marks ++ marks), ht, fun site hsite => ?_⟩
    rw [bind_apply, ← List.singleton_append, ← Site.marked_after site { t with marks := t.marks ++ marks }]
    exact hinner _ hsite
  · exact ⟨t, t.marks ++ marks, ht, hinner⟩

/-- The record of a failure. -/
def failureEntry (s : Service) (f : Failure) : Log.Entry :=
  ⟨.error, s.name, "Access layer error",
    [("code", .str f.code), ("message", .str f.message), ("details", .obj f.details)]⟩

theorem report_apply (s : Service) (f : Failure) (site : Site) :
    s.report f site =
      (tell f.status (f.response site.context.requestId).members, site.mark (.entry (s.failureEntry f))) := by
  rw [← site.record_context (s.failureEntry f)]
  rfl

theorem tell_of_whole (status : Nat) {members : Json.Members} (h : (Json.obj members).isWhole = true) :
    tell status members = .ok { status, body := .json (.obj members) } := by
  rw [tell, (Json.refusal?_eq_none_iff _).2 h]

/-- Members are told unless one of their texts holds a half. -/
theorem tell_eq_error_iff (status : Nat) (members : Json.Members) :
    (∃ b, tell status members = .error b) ↔ (Json.obj members).isWhole = false := by
  rw [← Bool.not_eq_true, ← Json.refusal?_eq_none_iff, tell]
  cases (Json.obj members).refusal? <;> simp

theorem eq_of_tell {status : Nat} {members : Json.Members} {a : Http.Answer} (h : tell status members = .ok a) :
    a = { status, body := .json (.obj members) } := by
  unfold tell at h
  split at h
  · cases h
  · exact (Except.ok.inj h).symm

/-- Under an id without halves, a failure is told in characters but for its message and its details. -/
theorem isWhole_response (f : Failure) {id : Option Text} (hid : (Json.ofOption id).isWhole = true) :
    (Json.obj (f.response id).members).isWhole = f.isWhole := by
  simp [Failure.response, ErrorResponse.members, Failure.isWhole, Json.isWhole, Json.allWholeIn, hid]

/-- What a request comes to before it is given its id. -/
inductive Reaction where
  | told (a : Http.Answer)
  | failed (f : Failure)
  | broken (b : Breakdown)

namespace Reaction

/-- What comes of a call. -/
def ofCall : Except Trouble Json.Members → Reaction
  | .ok members =>
    match tell 200 members with
    | .ok a => .told a
    | .error b => .broken b
  | .error (.failure f) => .failed f
  | .error (.breakdown b) => .broken b
  | .error (.invalid violations) => .broken ⟨.wrongValue, s!"{violations.length} validation errors"⟩

/-- The answer under an id, which is told in the body of a failure. -/
def answered (id : Option Text) : Reaction → Except Breakdown Http.Answer
  | .told a => .ok a
  | .failed f => tell f.status (f.response id).members
  | .broken b => .error b

theorem answered_ofCall_ok (members : Json.Members) (id : Option Text) :
    (ofCall (.ok members)).answered id = tell 200 members := by
  simp only [ofCall]
  cases tell 200 members <;> rfl

/-- Under every id, a reaction breaks that is broken, or that is a failure which cannot be told. -/
theorem answered_eq_error_iff (r : Reaction) (id : String) :
    (∃ b, r.answered (some id) = .error b) ↔ (∃ b, r = .broken b) ∨ ∃ f, r = .failed f ∧ f.isWhole = false := by
  cases r with
  | told a => simp [answered]
  | failed f =>
    have hid : (Json.ofOption (some (id : Text))).isWhole = true := rfl
    simp [answered, tell_eq_error_iff, isWhole_response f hid]
  | broken b => simp [answered]

end Reaction

/-- Whether the outcome of a call cannot be told: it holds a half of a pair in what the answer has to show. -/
inductive Untellable (c : Call) (o : Outcome Provider.Value) : Prop
  | session {v : Provider.Value} (hr : o.result = .ok v) (hc : c = .profile ∨ c = .refresh)
      (hs : o.session.isWhole = false)
  | failure {f : Failure} (hr : o.result = .error (.failure f)) (hf : f.isWhole = false)

/-- What a call comes to if it returns: nothing but the session itself for a profile, and a truth value for the others. -/
def Call.Gives : Call → Provider.Value → Prop
  | .profile, v => v = .nothing
  | .validate, v | .authorize, v | .refresh, v => ∃ b, v = .truth b

theorem map_eq_ok_iff {α β : Type} (f : α → β) (x : Except Trouble α) (b : β) :
    x.map f = .ok b ↔ ∃ a, x = .ok a ∧ f a = b := by
  cases x <;> simp [Except.map]

theorem gives_of_perform {p : Provider} {c : Call} {session : Session} {now : Instant} {timeout : Option Binary64}
    {site : Site} {v : Provider.Value} (h : (p.perform c.operation session now timeout site).1.result = .ok v) :
    c.Gives v := by
  cases c with
  | profile =>
    obtain ⟨_, -, hv⟩ := (map_eq_ok_iff ..).1 h
    exact hv.symm
  | validate | authorize | refresh =>
    obtain ⟨b, -, hv⟩ := (map_eq_ok_iff ..).1 h
    exact ⟨b, hv.symm⟩

theorem isWhole_payload (session : Session) :
    (Json.obj (SessionPayload.ofSession session).members).isWhole = session.isWhole := by
  cases hexpiry : session.expiresOn <;>
    simp [SessionPayload.members, SessionPayload.membersWith, SessionPayload.ofSession, Session.isWhole, Json.isWhole,
      Json.allWholeIn, Json.ofOption, hexpiry, Bool.and_assoc]

/-- What a call tells holds a half just when it gives back a session that holds one. -/
theorem isWhole_members {c : Call} {v : Provider.Value} (hv : c.Gives v) (session : Session) :
    (Json.obj (c.members v session)).isWhole = true ↔ (c = .profile ∨ c = .refresh → session.isWhole = true) := by
  have hecho := isWhole_payload session
  rw [Json.isWhole] at hecho
  cases c with
  | profile =>
    simp only [Call.members, Json.isWhole, Json.allWholeIn, hecho]
    simp [Session.isWhole]
    grind
  | validate | authorize | refresh =>
    obtain ⟨b, rfl⟩ := hv
    simp [Call.members, valueOf, Json.isWhole, Json.allWholeIn, hecho]

theorem untellable_of_ok {c : Call} {o : Outcome Provider.Value} {v : Provider.Value} (h : o.result = .ok v)
    (hv : c.Gives v) : Untellable c o ↔ (Json.obj (c.members v o.session)).isWhole = false := by
  rw [← Bool.not_eq_true, isWhole_members hv, Classical.not_imp, Bool.not_eq_true]
  constructor
  · rintro (⟨-, hc, hs⟩ | ⟨hr, -⟩)
    · exact ⟨hc, hs⟩
    · cases h.symm.trans hr
  · rintro ⟨hc, hs⟩
    exact .session h hc hs

theorem untellable_of_error {c : Call} {o : Outcome Provider.Value} {trouble : Trouble} (h : o.result = .error trouble) :
    Untellable c o ↔ ∃ f, trouble = .failure f ∧ f.isWhole = false := by
  constructor
  · rintro (⟨hr, -⟩ | ⟨hr, hf⟩)
    · cases h.symm.trans hr
    · exact ⟨_, Except.error.inj (h.symm.trans hr), hf⟩
  · rintro ⟨f, rfl, hf⟩
    exact .failure h hf

/-- A call breaks on what its operation breaks on, and on an outcome that it cannot tell. -/
theorem answered_ofCall_eq_error_iff {c : Call} {o : Outcome Provider.Value} (hv : ∀ v, o.result = .ok v → c.Gives v)
    (id : String) :
    (∃ b, (Reaction.ofCall (o.result.map (c.members · o.session))).answered (some id) = .error b) ↔
      Breaks o.result ∨ Untellable c o := by
  cases hr : o.result with
  | ok v =>
    rw [Except.map, Reaction.answered_ofCall_ok, tell_eq_error_iff, untellable_of_ok hr (hv v hr)]
    simp
  | error trouble =>
    rw [untellable_of_error hr, Reaction.answered_eq_error_iff]
    cases trouble <;> simp [Reaction.ofCall, Except.map, Trouble.isFailure]

/-- Whether a body is that of an error: it tells a code. -/
def TellsCode (a : Http.Answer) : Prop :=
  ∃ ms, a.body = .json (.obj ms) ∧ Table.has ms "code" = true

theorem not_tellsCode_detail (status : Nat) (text : String) : ¬TellsCode (.detail status text) := by
  rintro ⟨ms, hbody, hcode⟩
  cases hbody
  revert hcode
  simp [Table.has]

theorem not_tellsCode_members (c : Call) (v : Provider.Value) (session : Session) :
    ¬TellsCode { status := 200, body := .json (.obj (c.members v session)) } := by
  rintro ⟨ms, hbody, hcode⟩
  cases hbody
  revert hcode
  cases c <;> simp [Call.members, Table.has]

variable (s : Service)

/-- Whether a request brings its handling down: it is a call that cannot be answered for what it bears, whose operation ends
in an error that the access layer does not report itself, or whose outcome cannot be told. -/
def BringsDown (request : Http.Incoming) (now : Instant) (n : Network) : Prop :=
  ∃ c p segments, Http.Route.resolve s.routes request.method request.path = .endpoint (.call c p) segments ∧
    ((∃ b, readPayload request = .error (.unanswerable b)) ∨
      ∃ payload, readPayload request = .ok payload ∧
        let outcome := (p.perform c.operation payload.session now none { network := n }).1
        (Breaks outcome.result ∨ Untellable c outcome))

variable {s} {request : Http.Incoming} {p : Provider} {c : Call} {payload : SessionPayload} {now : Instant}

/-- A call that bears a session is answered for what comes of it, on the trace of the operation apart from marks. -/
theorem answerCall_trace (s : Service) (p : Provider) (c : Call) (now : Instant)
    (hb : readPayload request = .ok payload) (n : Network) :
    ∃ (t : Trace (Outcome Provider.Value)) (marks : List Site.Mark),
      (∀ site : Site, site.network = n →
        p.perform c.operation payload.session now none site = (t.value, site.after t)) ∧
      ∀ site : Site, site.network = n → s.answerCall p c request now site =
        ((Reaction.ofCall (t.value.result.map (c.members · t.value.session))).answered site.context.requestId,
          site.after { t with marks }) := by
  obtain ⟨t, marks, hperform, hcall⟩ := s.perform_trace p c payload now n
  cases hresult : t.value.result with
  | error trouble =>
    cases trouble with
    | failure f =>
      refine ⟨t, marks ++ [.entry (s.failureEntry f)], hperform, fun site hsite => ?_⟩
      rw [← Site.after_marked site { t with marks }]
      simp only [answerCall, hb, bind_apply, hcall site hsite, hresult, report_apply, Except.map, Site.after_requestId]
      rfl
    | breakdown b | invalid violations =>
      refine ⟨t, marks, hperform, fun site hsite => ?_⟩
      simp only [answerCall, hb, bind_apply, hcall site hsite, hresult, Except.map, pure_apply]
      rfl
  | ok v =>
    refine ⟨t, marks, hperform, fun site hsite => ?_⟩
    simp only [answerCall, hb, bind_apply, hcall site hsite, hresult, Except.map, pure_apply,
      Reaction.answered_ofCall_ok]

/-- What is known of a reaction: an answer that is told bears no id and no code yet, and it breaks just where the request
brings the handling down. -/
structure Reaction.Fits (r : Reaction) (s : Service) (request : Http.Incoming) (now : Instant) (n : Network) : Prop where
  bare : ∀ a, r = .told a → a.requestId = none ∧ ¬TellsCode a
  breaks : ∀ id : String, (∃ b, r.answered (some id) = .error b) ↔ s.BringsDown request now n

theorem bringsDown_iff {n : Network} {segments : List String}
    (h : Http.Route.resolve s.routes request.method request.path = .endpoint (.call c p) segments) :
    s.BringsDown request now n ↔ (∃ b, readPayload request = .error (.unanswerable b)) ∨
      ∃ payload, readPayload request = .ok payload ∧
        let outcome := (p.perform c.operation payload.session now none { network := n }).1
        (Breaks outcome.result ∨ Untellable c outcome) := by
  constructor
  · rintro ⟨c', p', segments', h', hbreaks⟩
    rw [h] at h'
    cases h'
    exact hbreaks
  · exact fun hbreaks => ⟨c, p, segments, h, hbreaks⟩

/-- What is told without a call fits, where there is no call to bring the handling down. -/
theorem Reaction.fits_told {a : Http.Answer} {n : Network} (hid : a.requestId = none) (hcode : ¬TellsCode a)
    (hdown : ¬s.BringsDown request now n) : (Reaction.told a).Fits s request now n := by
  refine ⟨?_, ?_⟩
  · rintro _ ⟨⟩
    exact ⟨hid, hcode⟩
  · simp [hdown, answered]

/-- A reaction that looks at nothing is its own trace. -/
theorem pure_trace {r : Reaction} {answered : Except Breakdown Http.Answer} {n : Network} (hr : r.Fits s request now n)
    (h : ∀ id, r.answered id = answered) :
    ∃ t : Trace Reaction, t.value.Fits s request now n ∧ ∀ site : Site, site.network = n →
      (pure answered : Effect (Except Breakdown Http.Answer)) site =
        (t.value.answered site.context.requestId, site.after t) := by
  refine ⟨⟨r, n, [], []⟩, hr, ?_⟩
  rintro site rfl
  simp [pure_apply, Site.after, h]

/-- A call is answered for what it bears, or else for what comes of it. -/
theorem answerCall_fits {n : Network} {segments : List String}
    (h : Http.Route.resolve s.routes request.method request.path = .endpoint (.call c p) segments) :
    ∃ t : Trace Reaction, t.value.Fits s request now n ∧ ∀ site : Site, site.network = n →
      s.answerCall p c request now site = (t.value.answered site.context.requestId, site.after t) := by
  have hdown : s.BringsDown request now n ↔ _ := bringsDown_iff h
  cases hb : readPayload request with
  | error refusal =>
    rw [hb] at hdown
    unfold answerCall
    rw [hb]
    cases refusal with
    | unanswerable b =>
      refine pure_trace (r := .broken b) ⟨nofun, ?_⟩ fun _ => rfl
      simp [hdown, Reaction.answered]
    | unreadable =>
      refine pure_trace (Reaction.fits_told rfl (not_tellsCode_detail _ _) ?_) fun _ => rfl
      simp [hdown]
    | invalid violations =>
      refine pure_trace (Reaction.fits_told rfl (a := .invalid violations) ?_ ?_) fun _ => rfl
      · rintro ⟨ms, hbody, -⟩
        cases hbody
      · simp [hdown]
  | ok payload =>
    obtain ⟨t, marks, hperform, hcall⟩ := s.answerCall_trace p c now hb n
    have hgives : ∀ v, t.value.result = .ok v → c.Gives v := by
      intro v hv
      refine @gives_of_perform p c payload.session now none { network := n } v ?_
      rwa [hperform { network := n } rfl]
    refine ⟨⟨.ofCall (t.value.result.map (c.members · t.value.session)), t.network, t.sent, marks⟩, ⟨?_, ?_⟩, hcall⟩
    · intro a ha
      cases hresult : t.value.result with
      | error trouble =>
        rw [hresult] at ha
        cases trouble <;> cases ha
      | ok v =>
        rw [hresult] at ha
        have htold := Reaction.answered_ofCall_ok (c.members v t.value.session) none
        rw [show Reaction.ofCall (.ok (c.members v t.value.session)) = .told a from ha] at htold
        obtain rfl := eq_of_tell htold.symm
        exact ⟨rfl, not_tellsCode_members c v _⟩
    · intro id
      rw [answered_ofCall_eq_error_iff hgives, hdown, hb]
      simp [hperform { network := n } rfl]

/-- An answer has a trace on every network, whatever the request. -/
theorem answer_trace (s : Service) (request : Http.Incoming) (arrival : Arrival) (n : Network) :
    ∃ t : Trace Reaction, t.value.Fits s request arrival.now n ∧ ∀ site : Site, site.network = n →
      s.answer request arrival site = (t.value.answered site.context.requestId, site.after t) := by
  have hquiet : ∀ a : Http.Answer, a.requestId = none → ¬TellsCode a →
      (∀ c p segments, Http.Route.resolve s.routes request.method request.path ≠ .endpoint (.call c p) segments) →
      ∃ t : Trace Reaction, t.value.Fits s request arrival.now n ∧ ∀ site : Site, site.network = n →
        (pure (.ok a) : Effect (Except Breakdown Http.Answer)) site =
          (t.value.answered site.context.requestId, site.after t) := by
    intro a hid hcode hcall
    refine pure_trace (Reaction.fits_told hid hcode ?_) fun _ => rfl
    rintro ⟨c, p, segments, h, -⟩
    exact hcall c p segments h
  unfold answer
  cases h : Http.Route.resolve s.routes request.method request.path with
  | endpoint e segments =>
    cases e with
    | documentation type => exact hquiet { status := 200, body := .media type } rfl (by simp [TellsCode]) (by simp [h])
    | health =>
      exact hquiet { status := 200, body := .json (.obj (s.health arrival.uptime)) } rfl
        (by simp [TellsCode, health, Table.has]) (by simp [h])
    | overview p =>
      exact hquiet { status := 200, body := .json (.obj (s.overview p)) } rfl (by simp [TellsCode, overview, Table.has])
        (by simp [h])
    | call c p => exact answerCall_fits h
  | wrongMethod methods => exact hquiet (.wrongMethod methods) rfl (not_tellsCode_detail 405 _) (by simp [h])
  | elsewhere path => exact hquiet (.redirect _) rfl (by simp [TellsCode, Http.Answer.redirect]) (by simp [h])
  | nowhere => exact hquiet .notFound rfl (not_tellsCode_detail _ _) (by simp [h])

/-- The id under which a request is handled: its own, or else a fresh one. -/
def idOf (request : Http.Incoming) (freshId : FreshId) : String :=
  (request.header? "x-request-id").getD freshId.text

def requestEntry (s : Service) (request : Http.Incoming) (status : Nat) : Log.Entry :=
  ⟨.info, s.name, "HTTP request",
    [("method", .str request.method), ("path", .str request.toldPath), ("status_code", .int status)]⟩

def breakdownEntry (s : Service) (b : Breakdown) : Log.Entry :=
  ⟨.error, s.name, "Unhandled exception", [("error", .str b.text)]⟩

namespace Reaction

/-- The answer that goes out. -/
def sentAs (request : Http.Incoming) (id : String) (r : Reaction) : Http.Answer :=
  match r.answered (some id) with
  | .ok a => { a with requestId := some id }.forMethod request.method
  | .error _ => internalError.forMethod request.method

/-- The last record, and the context that it is written under. -/
def lastEntry (s : Service) (request : Http.Incoming) (id : String) (r : Reaction) : Log.Entry :=
  match r.answered (some id) with
  | .ok a => s.requestEntry request a.status
  | .error b => s.breakdownEntry b

def lastContext (entered : Correlation) (id : String) (r : Reaction) : Correlation :=
  match r.answered (some id) with
  | .ok _ => entered
  | .error _ => .empty

end Reaction

/-- The surroundings that a request leaves. -/
def leave (s : Service) (request : Http.Incoming) (id : String) (t : Trace Reaction) (site : Site) : Site where
  network := t.network
  journal := site.journal
  context := .empty
  sent := site.sent ++ t.sent
  records :=
    let entered := { site.context with requestId := some id }
    site.records ++ Site.written site.journal entered t.marks ++
      Site.written site.journal (t.value.lastContext entered id) [.entry (t.value.lastEntry s request id)]

/-- A request is handled on the trace of its answer. -/
theorem handle_of_answer {s : Service} {request : Http.Incoming} {arrival : Arrival} {t : Trace Reaction} {n : Network}
    (ht : ∀ site : Site, site.network = n →
      s.answer request arrival site = (t.value.answered site.context.requestId, site.after t))
    (freshId : FreshId) {site : Site} (hsite : site.network = n) : s.handle request { arrival with freshId } site =
      (t.value.sentAs request (idOf request freshId), s.leave request (idOf request freshId) t site) := by
  have hget : ∀ site : Site, (get : Effect Site) site = (site, site) := fun _ => rfl
  have hset : ∀ (context : Correlation) (site : Site), Site.setContext context site = ((), { site with context }) :=
    fun _ _ => rfl
  have hanswer : s.answer request { arrival with freshId } = s.answer request arrival := rfl
  have hcontext : site.context.setRequest ((request.header? "x-request-id").map .whole) freshId.text =
      { site.context with requestId := some ↑(idOf request freshId) } := by
    unfold Correlation.setRequest idOf
    cases request.header? "x-request-id" <;> rfl
  simp only [handle, bind_apply, hget, hset, hanswer, hcontext]
  rw [ht { site with context := { site.context with requestId := some ↑(idOf request freshId) } } hsite, Site.after_frame]
  cases hanswered : t.value.answered (some (idOf request freshId)) with
  | ok a | error b =>
    simp only [bind_apply, hset, Site.note, pure_apply, Site.record_frame, leave, Reaction.sentAs, Reaction.lastEntry,
      Reaction.lastContext, hanswered]
    simp [requestEntry, breakdownEntry]

/-- Handling has a trace on every network, whichever id is fresh, and leaves an empty context behind. -/
theorem handle_trace (s : Service) (request : Http.Incoming) (arrival : Arrival) (n : Network) :
    ∃ t : Trace Reaction, t.value.Fits s request arrival.now n ∧
      ∀ (freshId : FreshId) (site : Site), site.network = n →
        s.handle request { arrival with freshId } site =
          (t.value.sentAs request (idOf request freshId), s.leave request (idOf request freshId) t site) := by
  obtain ⟨t, hfits, ht⟩ := s.answer_trace request arrival n
  exact ⟨t, hfits, fun freshId _ hsite => handle_of_answer ht freshId hsite⟩

end SignOn.Service
