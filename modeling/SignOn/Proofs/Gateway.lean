import SignOn.Proofs.Clocks
import SignOn.Proofs.Handling
import SignOn.Proofs.Rereading
import SignOn.Proofs.Writes

/-!
The service in front of a provider. A client that sends the session on as it was given back meets the same answers and
sets off the same requests as a gateway that holds the session itself.
-/

namespace SignOn

/-- Whether two surroundings have the network and what went out in common. -/
structure Site.Meets (a b : Site) : Prop where
  network : a.network = b.network
  sent : a.sent = b.sent

namespace Service

/-- A call over the web: where it goes, when it arrives, under which headers, and the replies that are laid down for what
it sets off, if any, in place of those that are left. -/
structure Visit where
  call : Call
  arrival : Arrival
  headers : Headers
  script : Option (List Reply) := none

namespace Visit

/-- Where a call goes over the web, and what it is in process. -/
def place : Call → String × Provider.Operation
  | .profile => ("/auth/profile", .getProfile)
  | .validate => ("/auth/session/validate", .validateSession)
  | .authorize => ("/auth/session/authorize", .validateGroup)
  | .refresh => ("/auth/session/refresh", .refresh)

theorem place_eq (c : Call) : place c = (c.path, c.operation) := by
  cases c <;> rfl

/-- The same call in process. -/
def inner (v : Visit) : Provider.Call :=
  { op := (place v.call).2, now := v.arrival.now, script := v.script }

def request (v : Visit) (body : List UInt8) : Http.Incoming :=
  ⟨"POST", (place v.call).1, "", v.headers, body⟩

theorem inner_op (v : Visit) : v.inner.op = v.call.operation :=
  congrArg Prod.snd (place_eq v.call)

theorem request_path (v : Visit) (body : List UInt8) : (v.request body).path = v.call.path :=
  congrArg Prod.fst (place_eq v.call)

/-- A request that names the interchange format as its media type is one of that format. -/
theorem isJson_request {v : Visit} (h : v.headers = [("content-type", "application/json")]) (body : List UInt8) :
    (v.request body).isJson = true := by
  simp only [Http.Incoming.isJson, Http.Incoming.header?, request, h]
  decide +kernel

/-- The id under which a call is answered. -/
def id (v : Visit) : String :=
  (v.headers.get? "x-request-id").getD v.arrival.freshId.text

end Visit

/-- A call over the web, with what it bears and meets, the answer to it and what it leaves. -/
structure Turn where
  visit : Visit
  body : List UInt8
  around : Site
  answer : Http.Answer
  left : Site

namespace Turn

def sent (t : Turn) : List Sent :=
  t.left.sent

/-- The session that a response gives back, where it is a 200 that bears one. -/
def echoed? (r : Response) : Option Json :=
  if r.status = 200 then
    match Json.readBytes r.body with
    | .ok (.obj ms) => Table.get? ms "session"
    | _ => none
  else none

/-- What a client sends next: the session that was given back, or else what it sent before. -/
def next (t : Turn) : List UInt8 :=
  (echoed? t.answer.response).elim t.body fun v => Utf8.encode v.write

end Turn

def turn (s : Service) (body : List UInt8) (site : Site) (v : Visit) : Turn :=
  let done := s.handle (v.request body) v.arrival (v.inner.enter site)
  ⟨v, body, v.inner.enter site, done.1, done.2⟩

/-- Calls over the web, one after another, each with the session that the one before leaves to the client. -/
def converse (s : Service) (body : List UInt8) (site : Site) : List Visit → List Turn
  | [] => []
  | v :: vs =>
    let t := s.turn body site v
    t :: converse s t.next t.left vs

/-- Every call finds its way, whatever else the service shows. -/
theorem resolve_path {s : Service} {p : Provider} (hp : s.provider = some p) (c : Call) :
    Http.Route.resolve s.routes "POST" c.path = .endpoint (.call c p) [] := by
  have hroutes : s.routes = s.documentationRoutes ++ fixedRoute ["GET"] "/health" .health :: providerRoutes p := by
    rw [routes, hp]
    rfl
  rw [hroutes, documentationRoutes]
  cases s.documented with
  | true => cases c <;> rfl
  | false => cases c <;> rfl

/-- The answer that tells some members under an id, or a plain 500 where they cannot be told. -/
def sentWith (id : String) (status : Nat) (members : Json.Members) : Http.Answer :=
  match tell status members with
  | .ok a => { a with requestId := some id }
  | .error _ => internalError

/-- The answer for what comes of an operation. -/
def answerFor (c : Call) (id : String) (o : Outcome Provider.Value) : Http.Answer :=
  match o.result with
  | .ok v => sentWith id 200 (c.members v o.session)
  | .error (.failure f) => sentWith id f.status (f.response (some id)).members
  | .error _ => internalError

theorem sentAs_ofCall {request : Http.Incoming} (hm : request.method = "POST") (c : Call) (id : String)
    (o : Outcome Provider.Value) :
    (Reaction.ofCall (o.result.map (c.members · o.session))).sentAs request id = answerFor c id o := by
  have hmethod : ∀ answer : Http.Answer, answer.forMethod request.method = answer := by
    intro answer
    rw [hm]
    rfl
  unfold Reaction.sentAs answerFor
  simp only [hmethod]
  cases o.result with
  | ok v => rw [Except.map, Reaction.answered_ofCall_ok]; rfl
  | error trouble =>
    cases trouble with
    | failure f | breakdown b | invalid violations => rfl

theorem sentWith_of_whole (id : String) (status : Nat) {members : Json.Members}
    (h : (Json.obj members).isWhole = true) :
    sentWith id status members = { status, body := .json (.obj members), requestId := some id } := by
  rw [sentWith, tell_of_whole status h]

theorem sentWith_of_torn (id : String) (status : Nat) {members : Json.Members}
    (h : (Json.obj members).isWhole = false) : sentWith id status members = internalError := by
  obtain ⟨b, hb⟩ := (tell_eq_error_iff status members).2 h
  rw [sentWith, hb]

/-- What a call that bears a session is answered, and what goes out for it. -/
theorem handle_spec {s : Service} {p : Provider} (hp : s.provider = some p) {c : Call} {payload : SessionPayload}
    {request : Http.Incoming} (hm : request.method = "POST") (hpath : request.path = c.path)
    (hb : readPayload request = .ok payload) (arrival : Arrival) {site like : Site} (h : site.Meets like) :
    (s.handle request arrival site).1 = answerFor c (idOf request arrival.freshId)
          (p.perform c.operation payload.session arrival.now none like).1 ∧
      (s.handle request arrival site).2.Meets (p.perform c.operation payload.session arrival.now none like).2 := by
  have hanswer : s.answer request arrival = s.answerCall p c request arrival.now := by
    unfold answer
    rw [hm, hpath, resolve_path hp c]
  obtain ⟨t, marks, hperform, hcall⟩ := s.answerCall_trace p c arrival.now hb like.network
  rw [← hanswer] at hcall
  have hhandle : s.handle request arrival site = _ := handle_of_answer
    (t := ⟨.ofCall (t.value.result.map (c.members · t.value.session)), t.network, t.sent, marks⟩)
    hcall arrival.freshId h.network
  rw [hhandle, hperform like rfl]
  exact ⟨sentAs_ofCall hm c _ _, rfl, congrArg (· ++ t.sent) h.sent⟩

end Service

theorem Field.onMinutes_of_optionalMoment {v : Json} {m : Moment} (h : Field.optionalMoment v = .valid (some m)) :
    m.OnMinutes := by
  unfold optionalMoment at h
  split at h
  · cases h
  · split at h
    · next hm =>
      cases h
      exact Moment.onMinutes_of_ofJson hm
    all_goals cases h

theorem Field.optionalMoment_wire {expiry : Option Moment} (h : ∀ m ∈ expiry, m.OnMinutes) :
    Field.optionalMoment (Json.ofOption (expiry.map fun m => ↑m.wire)) = .valid expiry := by
  cases expiry with
  | none => rfl
  | some m =>
    have hm : Moment.ofJson (.str m.wire) = .ok m := by
      rw [Moment.ofJson]
      exact Moment.ofText_wire (h m rfl)
    simp only [Option.map_some, Json.ofOption, optionalMoment, hm]

namespace SessionPayload

theorem onMinutes_of_ofMembers {ms : Json.Members} {payload : SessionPayload} (h : ofMembers ms = .valid payload) :
    ∀ m ∈ payload.expiresOn, m.OnMinutes := by
  intro m hm
  simp only [ofMembers, Checked.seq_eq_valid_iff, Checked.map_eq_valid_iff] at h
  obtain ⟨_, expiry, ⟨_, _, ⟨_, _, ⟨_, _, ⟨_, -, rfl⟩, -, rfl⟩, -, rfl⟩, -, rfl⟩, hexpiry, rfl⟩ := h
  obtain rfl : expiry = some m := hm
  unfold Field.optional at hexpiry
  split at hexpiry
  · cases hexpiry
  · next v _ =>
    cases hv : Field.optionalMoment v with
    | valid expiry =>
      rw [hv] at hexpiry
      cases hexpiry
      exact Field.onMinutes_of_optionalMoment hv
    | invalid vs =>
      rw [hv] at hexpiry
      cases hexpiry

/-- A payload is read from its own members as it was. -/
theorem ofMembers_members (payload : SessionPayload) (h : ∀ m ∈ payload.expiresOn, m.OnMinutes) :
    ofMembers payload.members = .valid payload := by
  have hexpiry := Field.optionalMoment_wire h
  simp only [ofMembers, members, membersWith, Field.optional, Table.get?_cons, Text.whole.injEq, String.reduceEq,
    ↓reduceIte, Field.text, Checked.within, hexpiry]
  rfl

end SessionPayload

namespace Service

theorem payloadOf_eq_ok {v : Json} {payload : SessionPayload} (h : payloadOf v = .ok payload) :
    ∃ ms, v = .obj ms ∧ SessionPayload.ofMembers ms = .valid payload := by
  unfold payloadOf at h
  split at h
  · cases h
  · next ms =>
    cases hms : SessionPayload.ofMembers ms with
    | valid payload' =>
      simp only [hms] at h
      obtain rfl := Except.ok.inj h
      exact ⟨ms, rfl, hms⟩
    | invalid violations =>
      simp only [hms] at h
      cases h
  · cases h

/-- Whether some bytes are the wire form of a session, in whichever spelling. -/
def Bears (body : List UInt8) (session : Session) : Prop :=
  ∃ v, Json.readBytes body = .ok v ∧ payloadOf v = .ok (SessionPayload.ofSession session)

theorem Bears.onMinutes {body : List UInt8} {session : Session} (h : Bears body session) :
    ∀ m ∈ session.expiresOn, m.OnMinutes := by
  obtain ⟨v, -, hv⟩ := h
  obtain ⟨ms, -, hms⟩ := payloadOf_eq_ok hv
  exact SessionPayload.onMinutes_of_ofMembers hms

theorem Bears.readPayload {body : List UInt8} {session : Session} (h : Bears body session) {visit : Visit}
    (hj : (visit.request body).isJson = true) :
    readPayload (visit.request body) = .ok (SessionPayload.ofSession session) := by
  obtain ⟨v, hread, hv⟩ := h
  have hempty : (visit.request body).body.isEmpty = false := by
    show body.isEmpty = false
    cases body with
    | nil => cases hread
    | cons b bs => rfl
  have hread' : Json.readBytes (visit.request body).body = .ok v := hread
  simp only [Service.readPayload, hempty, hj, Bool.false_eq_true, ↓reduceIte, hread', hv]

/-- The session as a 200 shows it: its four texts and its expiry by name, so that it is read as that session when it is
sent again. -/
structure Spells (echo : Json.Members) (session : Session) : Prop where
  accessToken : echo.get? "access_token" = some (.str session.accessToken)
  refreshToken : echo.get? "refresh_token" = some (.str session.refreshToken)
  email : echo.get? "email" = some (.str session.email)
  user : echo.get? "user" = some (.str session.user)
  expiresOn : echo.get? "expires_on" = some (Json.ofOption (session.expiresOn.map fun m => ↑m.wire))
  reread : payloadOf (.obj echo) = .ok (SessionPayload.ofSession session)

def Echoes (ms : Json.Members) (session : Session) : Prop :=
  ∃ echo, ms.get? "session" = some (.obj echo) ∧ Spells echo session

/-- What the body of a 200 tells: a profile the email and the user, the other calls a truth value, and the session where
it may have changed. -/
inductive Call.Tells (ms : Json.Members) (session : Session) : Call → Provider.Value → Prop
  | profile (hemail : ms.get? "email" = some (.str session.email)) (huser : ms.get? "user" = some (.str session.user))
      (hsession : Echoes ms session) : Tells ms session .profile .nothing
  | validate {b : Bool} (h : ms.get? "valid" = some (.bool b)) : Tells ms session .validate (.truth b)
  | authorize {b : Bool} (h : ms.get? "authorized" = some (.bool b)) : Tells ms session .authorize (.truth b)
  | refresh {b : Bool} (h : ms.get? "refreshed" = some (.bool b)) (hsession : Echoes ms session) :
      Tells ms session .refresh (.truth b)

theorem plain_payload {session : Session} (hs : session.isWhole = true) :
    Json.Plain 1 (.obj (SessionPayload.ofSession session).members) := by
  have hnames : ((SessionPayload.ofSession session).members.map (·.1)).Nodup := by
    show List.Nodup (["access_token", "refresh_token", "email", "user", "expires_on"] : List Text)
    decide
  simp only [Session.isWhole, Bool.and_eq_true, and_assoc] at hs
  obtain ⟨haccess, hrefresh, hemail, huser⟩ := hs
  refine .obj hnames ?_ ?_
  all_goals
    intro m hm
    simp only [SessionPayload.members, SessionPayload.membersWith, List.mem_cons, List.not_mem_nil, or_false] at hm
    rcases hm with rfl | rfl | rfl | rfl | rfl
  · rfl
  · rfl
  · rfl
  · rfl
  · rfl
  · exact .text haccess
  · exact .text hrefresh
  · exact .text hemail
  · exact .text huser
  · show Json.Plain 0 (Json.ofOption (session.expiresOn.map fun m => ↑m.wire))
    cases session.expiresOn with
    | none => exact .null
    | some m => exact .str _

theorem plain_members {c : Call} {v : Provider.Value} {session : Session} (hv : c.Gives v)
    (hw : c = .profile ∨ c = .refresh → session.isWhole = true) : Json.Plain 2 (.obj (c.members v session)) := by
  cases c with
  | profile =>
    have hs := hw (.inl rfl)
    have hecho := plain_payload hs
    simp only [Session.isWhole, Bool.and_eq_true, and_assoc] at hs
    obtain ⟨-, -, hemail, huser⟩ := hs
    refine .obj (by show List.Nodup (["email", "user", "session"] : List Text); decide) ?_ ?_
    all_goals
      intro m hm
      simp only [Call.members, List.mem_cons, List.not_mem_nil, or_false] at hm
      rcases hm with rfl | rfl | rfl
    · rfl
    · rfl
    · rfl
    · exact .text hemail
    · exact .text huser
    · exact hecho
  | validate | authorize =>
    obtain ⟨b, rfl⟩ := hv
    refine .obj (List.nodup_singleton _) (List.forall_mem_singleton.2 rfl) (List.forall_mem_singleton.2 (.bool b))
  | refresh =>
    obtain ⟨b, rfl⟩ := hv
    have hecho := plain_payload (hw (.inr rfl))
    refine .obj (by show List.Nodup (["refreshed", "session"] : List Text); decide) ?_ ?_
    all_goals
      intro m hm
      simp only [Call.members, List.mem_cons, List.not_mem_nil, or_false] at hm
      rcases hm with rfl | rfl
    · rfl
    · rfl
    · exact .bool b
    · exact hecho

/-- What is told of a call that returns: its members, unless the session that it gives back holds a half. -/
theorem answerFor_ok {c : Call} {id : String} {session : Session} {v : Provider.Value} (hv : c.Gives v)
    (hw : c = .profile ∨ c = .refresh → session.isWhole = true) :
    answerFor c id ⟨session, .ok v⟩ =
      { status := 200, body := .json (.obj (c.members v session)), requestId := some id } :=
  sentWith_of_whole id 200 ((isWhole_members hv session).2 hw)

theorem answerFor_untellable {c : Call} {id : String} {o : Outcome Provider.Value}
    (hv : ∀ v, o.result = .ok v → c.Gives v) (h : Untellable c o) : answerFor c id o = internalError := by
  unfold answerFor
  cases hr : o.result with
  | ok v => exact sentWith_of_torn id 200 ((untellable_of_ok hr (hv v hr)).1 h)
  | error trouble =>
    obtain ⟨f, rfl, hf⟩ := (untellable_of_error hr).1 h
    exact sentWith_of_torn id f.status ((isWhole_response f rfl).trans hf)

/-- A client reads out of a 200 what was written into it. -/
theorem readBytes_answerFor {c : Call} {id : String} {session : Session} {v : Provider.Value} (hv : c.Gives v)
    (hw : c = .profile ∨ c = .refresh → session.isWhole = true) :
    Json.readBytes (answerFor c id ⟨session, .ok v⟩).response.body = .ok (.obj (c.members v session)) := by
  rw [answerFor_ok hv hw]
  exact Json.readBytes_write ((plain_members hv hw).mono (by decide))

theorem payloadOf_members {session : Session} (h : ∀ m ∈ session.expiresOn, m.OnMinutes) :
    payloadOf (.obj (SessionPayload.ofSession session).members) = .ok (SessionPayload.ofSession session) := by
  simp only [payloadOf, SessionPayload.ofMembers_members (SessionPayload.ofSession session) h]

theorem bears_write {session : Session} (hs : session.isWhole = true) (h : ∀ m ∈ session.expiresOn, m.OnMinutes) :
    Bears (Utf8.encode (Json.write (.obj (SessionPayload.ofSession session).members))) session :=
  ⟨_, Json.readBytes_write ((plain_payload hs).mono (by decide)), payloadOf_members h⟩

theorem echoes_members {session : Session} (h : ∀ m ∈ session.expiresOn, m.OnMinutes) {ms : Json.Members}
    (hms : ms.get? "session" = some (.obj (SessionPayload.ofSession session).members)) : Echoes ms session :=
  ⟨_, hms, ⟨rfl, rfl, rfl, rfl, rfl, payloadOf_members h⟩⟩

theorem tells_members {session : Session} (h : ∀ m ∈ session.expiresOn, m.OnMinutes) {c : Call} {v : Provider.Value}
    (hv : c.Gives v) : Call.Tells (c.members v session) session c v := by
  cases c with
  | profile =>
    obtain rfl := hv
    exact .profile rfl rfl (echoes_members h rfl)
  | validate =>
    obtain ⟨b, rfl⟩ := hv
    exact .validate rfl
  | authorize =>
    obtain ⟨b, rfl⟩ := hv
    exact .authorize rfl
  | refresh =>
    obtain ⟨b, rfl⟩ := hv
    exact .refresh rfl (echoes_members h rfl)

/-- Whether a call over the web shows what the same call shows in process: the requests that it sets off, the result with
the session it leaves, a failure by its own status and body, and any other trouble by a plain 500. An outcome that cannot
be told is a plain 500, too. -/
structure Turn.Mirrors (t : Turn) (st : Provider.Step) : Prop where
  call : t.visit.inner = st.call
  sent : t.sent = st.sent
  returned : ∀ v, st.outcome.result = .ok v → ¬Untellable t.visit.call st.outcome → t.answer.status = 200 ∧
    ∃ ms, Json.readBytes t.answer.response.body = .ok (.obj ms) ∧ Call.Tells ms st.outcome.session t.visit.call v
  failed : ∀ f, st.outcome.result = .error (.failure f) → ¬Untellable t.visit.call st.outcome →
    t.answer.status = f.status ∧ t.answer.body = .json (.obj [("request_id", .str t.visit.id), ("code", .str f.code),
      ("message", .str f.message), ("details", .obj f.details)])
  broken : ∀ trouble, st.outcome.result = .error trouble → trouble.isFailure = false → t.answer = internalError
  untold : Untellable t.visit.call st.outcome → t.answer = internalError

theorem Turn.mirrors_of_answer {t : Turn} {st : Provider.Step} (hc : t.visit.inner = st.call) (hs : t.sent = st.sent)
    (ha : t.answer = answerFor t.visit.call t.visit.id st.outcome)
    (h : ∀ m ∈ st.outcome.session.expiresOn, m.OnMinutes)
    (hv : ∀ v, st.outcome.result = .ok v → t.visit.call.Gives v) : t.Mirrors st := by
  obtain ⟨call, found, around, ⟨session, result⟩, left⟩ := st
  refine ⟨hc, hs, ?_, ?_, ?_, fun hu => ha.trans (answerFor_untellable hv hu)⟩
  · rintro v rfl htold
    have hgives := hv v rfl
    have hw : t.visit.call = .profile ∨ t.visit.call = .refresh → session.isWhole = true := by
      intro hcall
      rw [← Bool.not_eq_false]
      exact fun htorn => htold (.session rfl hcall htorn)
    rw [ha]
    exact ⟨congrArg Http.Answer.status (answerFor_ok hgives hw), _, readBytes_answerFor hgives hw,
      tells_members h hgives⟩
  · rintro f rfl htold
    have hw : (Json.obj (f.response (some t.visit.id)).members).isWhole = true := by
      rw [isWhole_response f rfl, ← Bool.not_eq_false]
      exact fun htorn => htold (.failure rfl htorn)
    have hanswer : t.answer = _ := ha.trans (sentWith_of_whole t.visit.id f.status hw)
    rw [hanswer]
    exact ⟨rfl, rfl⟩
  · rintro trouble rfl hbroken
    rw [ha]
    cases trouble with
    | failure f => cases hbroken
    | invalid violations | breakdown b => rfl

/-- No operation moves an expiry off whole minutes. -/
theorem onMinutes_step {p : Provider} {session : Session} (h : ∀ m ∈ session.expiresOn, m.OnMinutes) (site : Site)
    (c : Provider.Call) : ∀ m ∈ (p.step session site c).outcome.session.expiresOn, m.OnMinutes := by
  by_cases hop : c.op = .refresh
  · rcases Provider.refresh_expiresOn session site c hop with hsame | ⟨-, expiry, hnext, hmoved⟩
    · rwa [hsame]
    · rw [hmoved]
      rintro m hm
      obtain rfl := Option.some.inj hm
      exact Moment.onMinutes_of_make? hnext (by simp)
  · have hsame : (p.step session site c).outcome.session.expiresOn = session.expiresOn :=
      p.perform_expiresOn hop session c.now c.timeout (c.enter site)
    rwa [hsame]

theorem status_ne (f : Failure) : f.status ≠ 200 := by
  rw [Failure.status]
  cases f.kind <;> decide

theorem echoed?_of_ok {c : Call} (id : String) {session : Session} {v : Provider.Value} (hv : c.Gives v)
    (hw : c = .profile ∨ c = .refresh → session.isWhole = true) :
    Turn.echoed? (answerFor c id ⟨session, .ok v⟩).response = Table.get? (c.members v session) "session" := by
  have hstatus : (answerFor c id ⟨session, .ok v⟩).response.status = 200 := by
    rw [answerFor_ok hv hw]
    rfl
  rw [Turn.echoed?, if_pos hstatus, readBytes_answerFor hv hw]

theorem status_sentWith (id : String) (status : Nat) (members : Json.Members) :
    (sentWith id status members).status = status ∨ (sentWith id status members).status = 500 := by
  unfold sentWith
  cases h : tell status members with
  | ok a => exact .inl (congrArg Http.Answer.status (eq_of_tell h))
  | error b => exact .inr rfl

/-- A 200 tells of a call that returned, and of a session that can be given back. -/
theorem returned_of_status {c : Call} {id : String} {o : Outcome Provider.Value}
    (hv : ∀ v, o.result = .ok v → c.Gives v) (hs : (answerFor c id o).status = 200) :
    ∃ v, o.result = .ok v ∧ (c = .profile ∨ c = .refresh → o.session.isWhole = true) := by
  cases hr : o.result with
  | ok v =>
    refine ⟨v, rfl, fun hc => ?_⟩
    rw [← Bool.not_eq_false]
    intro htorn
    rw [answerFor_untellable hv (.session hr hc htorn)] at hs
    exact absurd hs (by decide)
  | error trouble =>
    rw [answerFor, hr] at hs
    cases trouble with
    | failure f =>
      rcases status_sentWith id f.status (f.response (some id)).members with hf | hf
      · exact absurd (hf.symm.trans hs) (status_ne f)
      · exact absurd (hf.symm.trans hs) (by decide)
    | invalid violations | breakdown b => exact absurd (show (500 : Nat) = 200 from hs) (by decide)

theorem echoed?_of_error (c : Call) (id : String) (session : Session) (trouble : Trouble) :
    Turn.echoed? (answerFor c id ⟨session, .error trouble⟩).response = none := by
  have hstatus : (answerFor c id ⟨session, .error trouble⟩).response.status ≠ 200 := by
    intro hs
    obtain ⟨v, hv, -⟩ := returned_of_status (fun v hv => by cases hv) hs
    cases hv
  rw [Turn.echoed?, if_neg hstatus]

/-- Whether a step comes to a session that cannot be given back: it is a profile or a refresh, and a text of the session
that it leaves holds a half. -/
structure EndsTorn (st : Provider.Step) : Prop where
  returns : st.Returns
  gives : st.call.op = .getProfile ∨ st.call.op = .refresh
  torn : st.outcome.session.isWhole = false

/-- Whatever a client is left with after a call is the wire form of the session that the call leaves in process, unless an
email was missing or the session cannot be given back. -/
theorem bears_next {p : Provider} {session : Session} {site : Site} {t : Turn} (hb : Bears t.body session)
    (ha : t.answer = answerFor t.visit.call t.visit.id (p.step session site t.visit.inner).outcome)
    (hgives : ∀ v, (p.step session site t.visit.inner).outcome.result = .ok v → t.visit.call.Gives v)
    (hshort : ¬(p.step session site t.visit.inner).FallsShort)
    (htorn : ¬EndsTorn (p.step session site t.visit.inner)) :
    Bears t.next (p.step session site t.visit.inner).outcome.session := by
  have hminutes := onMinutes_step (p := p) hb.onMinutes site t.visit.inner
  have hw := p.step_writes session site t.visit.inner
  have hcheck := Provider.step_writes_of_check (p := p) session site (c := t.visit.inner)
  have hfound : (p.step session site t.visit.inner).found = session := rfl
  have hcalled : (p.step session site t.visit.inner).call = t.visit.inner := rfl
  generalize p.step session site t.visit.inner = st at ha hgives hshort htorn hminutes hw hcheck hfound hcalled ⊢
  obtain ⟨call, found, around, ⟨session', result⟩, left⟩ := st
  cases result with
  | error trouble =>
    have hret : ¬(Provider.Step.mk call found around ⟨session', .error trouble⟩ left).Returns := by
      rintro ⟨v, hv⟩
      cases hv
    have hkept := hw.of_failure hret hshort
    dsimp only at ha hkept hfound ⊢
    rw [Turn.next, ha, echoed?_of_error, hkept, hfound]
    exact hb
  | ok v =>
    dsimp only at ha hminutes hcheck hcalled ⊢
    have hwhole : t.visit.call = .profile ∨ t.visit.call = .refresh → session'.isWhole = true := by
      intro hcall
      rw [← Bool.not_eq_false]
      refine fun hs => htorn ⟨⟨v, rfl⟩, ?_, hs⟩
      rw [hcalled]
      exact hcall.imp (fun h => by rw [t.visit.inner_op, h]; rfl) fun h => by rw [t.visit.inner_op, h]; rfl
    rw [Turn.next, ha, echoed?_of_ok t.visit.id (hgives v rfl) hwhole]
    cases hcall : t.visit.call with
    | profile => exact bears_write (hwhole (.inl hcall)) hminutes
    | refresh => exact bears_write (hwhole (.inr hcall)) hminutes
    | validate =>
      rw [(hcheck (.inl (by rw [Visit.inner, hcall]; rfl))).1]
      exact hb
    | authorize =>
      rw [(hcheck (.inr (by rw [Visit.inner, hcall]; rfl))).1]
      exact hb

theorem gives_step (p : Provider) (session : Session) (site : Site) (v : Visit) :
    ∀ value, (p.step session site v.inner).outcome.result = .ok value → v.call.Gives value := by
  intro value h
  refine @gives_of_perform p v.call session v.inner.now v.inner.timeout (v.inner.enter site) value ?_
  rw [← v.inner_op]
  exact h

/-- A call over the web mirrors the same call in process, and leaves the client with the session that the latter leaves,
unless an email was missing or the session cannot be given back. -/
theorem turn_mirrors {s : Service} {p : Provider} (hp : s.provider = some p) {body : List UInt8} {session : Session}
    (hb : Bears body session) {site site' : Site} (hsite : site'.network = site.network) {v : Visit}
    (hj : (v.request body).isJson = true) :
    (s.turn body site' v).Mirrors (p.step session site v.inner) ∧
      (s.turn body site' v).left.network = (p.step session site v.inner).left.network ∧
        (¬(p.step session site v.inner).FallsShort → ¬EndsTorn (p.step session site v.inner) →
          Bears (s.turn body site' v).next (p.step session site v.inner).outcome.session) := by
  have hentered : (v.inner.enter site').Meets (v.inner.enter site) := by
    refine ⟨?_, rfl⟩
    simp [Provider.Call.enter, hsite]
  obtain ⟨hanswer, hmeets⟩ := handle_spec hp (rfl : (v.request body).method = "POST") (v.request_path body)
    (hb.readPayload hj) v.arrival hentered
  rw [← v.inner_op] at hanswer hmeets
  have hminutes := onMinutes_step (p := p) hb.onMinutes site v.inner
  have ha : (s.turn body site' v).answer = answerFor v.call v.id (p.step session site v.inner).outcome := hanswer
  have hgives := gives_step p session site v
  exact ⟨Turn.mirrors_of_answer rfl hmeets.sent ha hminutes hgives, hmeets.network,
    fun hshort htorn => bears_next (t := s.turn body site' v) hb ha hgives hshort htorn⟩

end Service

end SignOn
