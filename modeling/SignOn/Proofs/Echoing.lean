import SignOn.Proofs.Gateway

/-!
Sessions that are sent back and forth. What is read of a session is written so that it is read again as it was, and a
client that goes on with what it is given back never has another session than its first, as long as no call changes it.
-/

namespace SignOn.Service

variable {s : Service} {p : Provider} {payload : SessionPayload}

/-- Whether a call gives the session back. -/
def Call.echoes : Call → Bool
  | .profile | .refresh => true
  | .validate | .authorize => false

theorem Call.echoes_iff (c : Call) : c.echoes = true ↔ c = .profile ∨ c = .refresh := by
  cases c <;> simp [echoes]

theorem get?_members_session (c : Call) (v : Provider.Value) (session : Session) :
    Table.get? (c.members v session) "session" =
      if c.echoes = true then some (.obj (SessionPayload.ofSession session).members) else none := by
  cases c <;> rfl

/-- Whether a call is made with a session, gives back that session in its one written form where it gives back any, and
leaves the client with it. -/
structure Turn.Keeps (t : Turn) (payload : SessionPayload) : Prop where
  reads : readPayload (t.visit.request t.body) = .ok payload
  echoes : Turn.echoed? t.answer.response =
    if t.answer.status = 200 ∧ t.visit.call.echoes = true then some (.obj payload.members) else none
  bears : Bears t.next payload.session

theorem bears_of_ofMembers {ms : Json.Members} {body : List UInt8} (h : SessionPayload.ofMembers ms = .valid payload)
    (hb : Json.readBytes body = .ok (.obj ms)) : Bears body payload.session :=
  ⟨_, hb, by rw [payloadOf, h, SessionPayload.ofSession_session]⟩

@[simp] theorem turn_visit (s : Service) (body : List UInt8) (site : Site) (v : Visit) :
    (s.turn body site v).visit = v := rfl

@[simp] theorem turn_body (s : Service) (body : List UInt8) (site : Site) (v : Visit) :
    (s.turn body site v).body = body := rfl

theorem turn_answer (hp : s.provider = some p) {body : List UInt8} {session : Session} (hb : Bears body session)
    {site site' : Site} (hsite : site'.network = site.network) {v : Visit} (hj : (v.request body).isJson = true) :
    (s.turn body site' v).answer = answerFor v.call v.id (p.step session site v.inner).outcome := by
  have hentered : (v.inner.enter site').Meets (v.inner.enter site) := by
    refine ⟨?_, rfl⟩
    simp [Provider.Call.enter, hsite]
  obtain ⟨hanswer, -⟩ := handle_spec hp (rfl : (v.request body).method = "POST") (v.request_path body)
    (hb.readPayload hj) v.arrival hentered
  rw [← v.inner_op] at hanswer
  exact hanswer

theorem echoed?_answerFor {c : Call} (id : String) {o : Outcome Provider.Value}
    (hv : ∀ v, o.result = .ok v → c.Gives v) :
    Turn.echoed? (answerFor c id o).response =
      if (answerFor c id o).status = 200 ∧ c.echoes = true then some (.obj (SessionPayload.ofSession o.session).members)
      else none := by
  by_cases hs : (answerFor c id o).status = 200
  · obtain ⟨v, hr, hw⟩ := returned_of_status hv hs
    obtain ⟨session, result⟩ := o
    obtain rfl := hr
    rw [echoed?_of_ok id (hv v rfl) hw, get?_members_session]
    simp [hs]
  · have hs' : (answerFor c id o).response.status ≠ 200 := hs
    rw [Turn.echoed?, if_neg hs', if_neg fun h => hs h.1]

/-- A call that changes nothing in process keeps the session over the web. -/
theorem turn_keeps (hp : s.provider = some p) {body : List UInt8} (hb : Bears body payload.session)
    {site site' : Site} (hsite : site'.network = site.network) {v : Visit} (hj : (v.request body).isJson = true)
    (hsame : (p.step payload.session site v.inner).outcome.session = payload.session) :
    (s.turn body site' v).Keeps payload := by
  have ha := turn_answer hp hb hsite hj
  have hgives := gives_step p payload.session site v
  have hvisit := s.turn_visit body site' v
  have hbody := s.turn_body body site' v
  generalize s.turn body site' v = t at ha hvisit hbody ⊢
  subst hvisit hbody
  generalize (p.step payload.session site t.visit.inner).outcome = o at ha hsame hgives
  obtain ⟨session, result⟩ := o
  obtain rfl : session = payload.session := hsame
  have hechoes := echoed?_answerFor t.visit.id hgives
  rw [← ha, SessionPayload.ofSession_session] at hechoes
  refine ⟨hb.readPayload hj, hechoes, ?_⟩
  rw [Turn.next, hechoes]
  split
  · next h =>
    rw [ha] at h
    obtain ⟨-, -, hwhole⟩ := returned_of_status hgives h.1
    have hwritten := bears_write (hwhole (t.visit.call.echoes_iff.1 h.2)) hb.onMinutes
    rwa [SessionPayload.ofSession_session] at hwritten
  · rwa [Option.elim_none]

@[simp] theorem length_converse (s : Service) (body : List UInt8) (site : Site) (visits : List Visit) :
    (s.converse body site visits).length = visits.length := by
  induction visits generalizing body site with
  | nil => rfl
  | cons v visits ih => exact congrArg (· + 1) (ih _ _)

theorem converse_keeps (hp : s.provider = some p) {body : List UInt8} (hb : Bears body payload.session)
    {site site' : Site} (hsite : site'.network = site.network) {visits : List Visit}
    (hj : ∀ v ∈ visits, ∀ body, (v.request body).isJson = true)
    (hsame : ∀ st ∈ p.run payload.session site (visits.map Visit.inner), st.outcome.session = st.found) :
    ∀ t ∈ s.converse body site' visits, t.Keeps payload := by
  induction visits generalizing body site site' with
  | nil => intro t ht; cases ht
  | cons v visits ih =>
    have hjson := hj v (List.mem_cons_self ..) body
    obtain ⟨hfirst, hrest⟩ := List.forall_mem_cons.1 hsame
    have hkeeps := turn_keeps hp hb hsite hjson hfirst
    obtain ⟨-, hleft, -⟩ := turn_mirrors hp hb hsite hjson
    rw [show (p.step payload.session site v.inner).outcome.session = payload.session from hfirst] at hrest
    have hlater := ih hkeeps.bears hleft (fun v hv => hj v (List.mem_cons_of_mem _ hv)) hrest
    exact List.forall_mem_cons.2 ⟨hkeeps, hlater⟩

/-- A session that is read is written as it was read, if it can be written at all. It comes through a session in process
and back, its members are read to the same four texts and the same expiry, in calendar, distance from universal time and
microseconds, and an answer bears them exactly where none of the texts holds half of a pair. A client that goes on with
what it is given back, or else with what it has, has the same session in every call, as long as none of them changes
it. -/
theorem payload_round_trip {ms : Json.Members} (h : SessionPayload.ofMembers ms = .valid payload) :
    SessionPayload.ofSession payload.session = payload ∧
    (SessionPayload.ofMembers payload.members = .valid payload ∧
      ((∃ answer, tell 200 payload.members = .ok answer) ↔ payload.session.isWhole = true) ∧
      ∀ answer, tell 200 payload.members = .ok answer →
        Json.readBytes answer.response.body = .ok (.obj payload.members)) ∧
    ∀ {s : Service} {p : Provider} (body : List UInt8) (site : Site) (visits : List Visit), s.provider = some p →
      Json.readBytes body = .ok (.obj ms) → (∀ v ∈ visits, ∀ body, (v.request body).isJson = true) →
      (∀ st ∈ p.run payload.session site (visits.map Visit.inner), st.outcome.session = st.found) →
        (s.converse body site visits).length = visits.length ∧ ∀ t ∈ s.converse body site visits, t.Keeps payload := by
  have htold : ∀ answer, tell 200 payload.members = .ok answer → payload.session.isWhole = true := by
    intro answer htell
    rw [← isWhole_payload, ← Bool.not_eq_false, ← tell_eq_error_iff 200]
    rintro ⟨b, hb⟩
    cases htell.symm.trans hb
  refine ⟨rfl, ⟨?_, ?_, ?_⟩, ?_⟩
  · exact SessionPayload.ofMembers_members payload (SessionPayload.onMinutes_of_ofMembers h)
  · refine ⟨fun ⟨answer, htell⟩ => htold answer htell, fun hwhole => ⟨_, tell_of_whole 200 ?_⟩⟩
    exact (isWhole_payload payload.session).trans hwhole
  · intro answer htell
    rw [eq_of_tell htell]
    exact Json.readBytes_write ((plain_payload (htold answer htell)).mono (by decide))
  · intro s p body site visits hp hb hj hsame
    exact ⟨length_converse s body site visits, converse_keeps hp (bears_of_ofMembers h hb) rfl hj hsame⟩

/-- A complete session is sent to all four calls in turn, all are answered, and the first two answers give it back. Its expiry
has a fraction of a second, and a clock that is five and a half hours behind. -/
theorem payload_round_trip_of_four :
    let p := Provider.make "sso.example" "directory.example" ["eng"] {}
    let s : Service := ⟨"sso", some p, false, "unknown"⟩
    let ms : Json.Members := [("access_token", .str "t"), ("refresh_token", .str "r"), ("email", .str "j.doe@example"),
      ("user", .str "uid=j.doe"), ("expires_on", .str "2031-03-01 08:15:30.25-0530")]
    let payload : SessionPayload := ⟨"t", "r", "j.doe@example", "uid=j.doe",
      Moment.ofParts? ⟨2031, 3, 1⟩ 8 15 30 250000 (some (-19800000000))⟩
    let body := Utf8.encode (Json.write (.obj ms))
    let fresh : FreshId := ⟨"00000000-0000-4000-8000-000000000000", by decide, by decide⟩
    let visit (c : Call) : Visit := ⟨c, ⟨0, Binary64.zero, fresh⟩, [("content-type", "application/json")], none⟩
    let visits := [Call.profile, .refresh, .validate, .authorize].map visit
    payload.expiresOn.map Moment.wire = some "2031-03-01T08:15:30.250000-05:30" ∧
      SessionPayload.ofMembers payload.members = .valid payload ∧
      (s.converse body {} visits).map (·.visit.call) = [.profile, .refresh, .validate, .authorize] ∧
      ∀ t ∈ s.converse body {} visits, t.Keeps payload ∧ t.answer.status = 200 ∧
        (t.visit.call.echoes = true → Turn.echoed? t.answer.response = some (.obj payload.members)) := by
  intro p s ms payload body fresh visit visits
  have hread : SessionPayload.ofMembers ms = .valid payload := by decide +kernel
  have hbody : Json.readBytes body = .ok (.obj ms) := by decide +kernel
  have hjson : ∀ v ∈ visits, ∀ body, (v.request body).isJson = true := by
    intro v hv body
    obtain ⟨c, -, rfl⟩ := List.mem_map.1 hv
    exact Visit.isJson_request rfl body
  have hsame : ∀ st ∈ p.run payload.session {} (visits.map Visit.inner), st.outcome.session = st.found := by
    decide +kernel
  have hanswered : ∀ t ∈ s.converse body {} visits, t.answer.status = 200 := by decide +kernel
  obtain ⟨-, ⟨hback, -, -⟩, hrun⟩ := payload_round_trip hread
  have hkeeps := (hrun (s := s) (p := p) body {} visits rfl hbody hjson hsame).2
  refine ⟨by decide +kernel, hback, by decide +kernel, fun t ht => ⟨hkeeps t ht, hanswered t ht, fun hechoes => ?_⟩⟩
  rw [(hkeeps t ht).echoes, if_pos ⟨hanswered t ht, hechoes⟩]

/-- A session whose email is half of a pair is read, and no answer bears it. -/
theorem payload_round_trip_of_torn_email :
    let ms : Json.Members := [("email", .str (.torn "" 0 ""))]
    let payload : SessionPayload := ⟨"", "", .torn "" 0 "", "", none⟩
    Json.readBytes (Utf8.encode "\x7b\x22email\x22: \x22\\ud800\x22\x7d".toList) = .ok (.obj ms) ∧
      SessionPayload.ofMembers ms = .valid payload ∧ ¬∃ answer, tell 200 payload.members = .ok answer := by
  intro ms payload
  have hread : SessionPayload.ofMembers ms = .valid payload := by decide +kernel
  refine ⟨by decide +kernel, hread, ?_⟩
  rintro ⟨answer, htell⟩
  obtain ⟨b, htorn⟩ := (tell_eq_error_iff 200 payload.members).2 (by decide +kernel)
  cases htell.symm.trans htorn

end SignOn.Service
