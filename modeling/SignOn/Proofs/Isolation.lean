import SignOn.Proofs.Handling
import SignOn.Service.Setup

/-!
Requests that are handled one after another. Each of them is handled as if it were the only one: between two requests the
context is empty, and the journal stays as it was set up. Which id a request is given shows in its id alone.
-/

namespace SignOn

namespace Table

variable {α κ : Type} [DecidableEq κ]

/-- A table without the rows of a name. -/
def without (name : κ) (t : Table α κ) : Table α κ :=
  t.filter fun row => row.1 != name

theorem has_without {name other : κ} (h : other ≠ name) (t : Table α κ) :
    has (without name t) other = has t other := by
  induction t with
  | nil => rfl
  | cons row t ih =>
    by_cases hrow : row.1 = name
    · have hother : row.1 ≠ other := fun heq => h (heq.symm.trans hrow)
      rw [has_cons, beq_eq_false_iff_ne.2 hother, Bool.false_or, ← ih]
      simp [without, hrow]
    · rw [has_cons, ← ih]
      simp [without, hrow, has_cons]

theorem without_overwrite (name other : κ) (value : α) (t : Table α κ) :
    without name (t.map fun row => if row.1 = other then (other, value) else row) =
      (without name t).map fun row => if row.1 = other then (other, value) else row := by
  have hname : ∀ row : κ × α, (if row.1 = other then (other, value) else row).1 = row.1 := by
    intro row
    split
    · next heq => exact heq.symm
    · rfl
  simp only [without, List.filter_map, Function.comp_def, hname]

theorem without_put_self (name : κ) (value : α) (t : Table α κ) : without name (put t name value) = without name t := by
  unfold put
  split
  · rw [without_overwrite]
    refine (List.map_congr_left fun row hrow => ?_).trans (List.map_id _)
    have hne : row.1 ≠ name := by simpa using (List.mem_filter.1 hrow).2
    simp [hne]
  · simp [without]

theorem without_put_of_ne {name other : κ} (h : other ≠ name) (value : α) (t : Table α κ) :
    without name (put t other value) = put (without name t) other value := by
  unfold put
  rw [has_without h]
  split
  · exact without_overwrite ..
  · simp [without, h]

end Table

/-- Members apart from the id that they tell. -/
def Json.withoutId (ms : Members) : Members :=
  Table.without "request_id" ms

namespace Correlation

theorem without_stampPart_self (name : String) (value : Option Text) (ms : Json.Members) :
    Table.without ↑name (stampPart name value ms) = Table.without ↑name ms := by
  unfold stampPart
  split
  · rfl
  · rfl
  · exact Table.without_put_self ..

theorem without_stampPart_of_ne {name other : String} (h : other ≠ name) (value : Option Text) (ms : Json.Members) :
    Table.without ↑name (stampPart other value ms) = stampPart other value (Table.without ↑name ms) := by
  unfold stampPart
  split
  · rfl
  · rfl
  · exact Table.without_put_of_ne (mt Text.whole.inj h) ..

/-- Apart from its id, a record tells the rest of the context. -/
theorem without_stamp (c : Correlation) (id : Option Text) (ms : Json.Members) :
    Json.withoutId ({ c with requestId := id }.stamp ms) =
      stampPart "email" c.email (stampPart "user_id" c.userId (Json.withoutId ms)) := by
  unfold Json.withoutId
  rw [stamp, without_stampPart_of_ne (by decide), without_stampPart_of_ne (by decide), without_stampPart_self]

end Correlation

/-- Apart from their ids, marks leave the same records behind under every id. -/
theorem Site.without_written (journal : Journal) (c : Correlation) (id id' : Option Text) (marks : List Mark) :
    (written journal { c with requestId := id } marks).map Json.withoutId =
      (written journal { c with requestId := id' } marks).map Json.withoutId := by
  induction marks generalizing c with
  | nil => rfl
  | cons m marks ih =>
    cases m with
    | entry e =>
      have he : Json.withoutId (e.members { c with requestId := id }) =
          Json.withoutId (e.members { c with requestId := id' }) := by
        rw [Log.Entry.members, Log.Entry.members, Correlation.without_stamp, Correlation.without_stamp]
      rw [written, written, List.map_append, List.map_append, ih c]
      split
      · rw [List.map_singleton, List.map_singleton, he]
      · rfl
    | user s => exact ih (c.setUser (some s.user) (some s.email))

namespace Service

/-- A request, what it meets when it arrives, and the network it meets. -/
structure Inquiry where
  request : Http.Incoming
  arrival : Arrival
  network : Network

/-- A request that has been handled, with the surroundings that it found and left. -/
structure Handled where
  inquiry : Inquiry
  around : Site
  answer : Http.Answer
  left : Site

/-- What a request shows: its answer, the requests that it sets off and the records that are written for it. -/
structure Shown where
  answer : Http.Answer
  sent : List Sent
  records : List Json.Members
  deriving DecidableEq

def Handled.shown (t : Handled) : Shown :=
  ⟨t.answer, t.left.sent, t.left.records⟩

/-- What a request finds: journal and context as they are, and nothing sent or written yet. -/
def Inquiry.enter (q : Inquiry) (site : Site) : Site :=
  { site.fresh with network := q.network }

def attend (s : Service) (site : Site) (q : Inquiry) : Handled :=
  let done := s.handle q.request q.arrival (q.enter site)
  ⟨q, q.enter site, done.1, done.2⟩

/-- Requests, one after another. -/
def serve (s : Service) (site : Site) : List Inquiry → List Handled
  | [] => []
  | q :: qs =>
    let t := s.attend site q
    t :: serve s t.left qs

/-- The same request where another id would be fresh. -/
def Inquiry.withFresh (q : Inquiry) (freshId : FreshId) : Inquiry :=
  { q with arrival := { q.arrival with freshId } }

/-- An answer apart from the id that it bears. -/
def withoutId (a : Http.Answer) : Http.Answer :=
  let body :=
    match a.body with
    | .json (.obj ms) => .json (.obj (Json.withoutId ms))
    | body => body
  { a with body, requestId := none }

/-- What is shown apart from the id. -/
def Shown.withoutId (v : Shown) : Shown :=
  ⟨Service.withoutId v.answer, v.sent, v.records.map Json.withoutId⟩

variable (s : Service)

theorem attend_trace (site : Site) (q : Inquiry) : ∃ t : Trace Reaction, ∀ freshId : FreshId,
    s.attend site (q.withFresh freshId) = ⟨q.withFresh freshId, q.enter site,
      t.value.sentAs q.request (idOf q.request freshId), s.leave q.request (idOf q.request freshId) t (q.enter site)⟩ := by
  obtain ⟨t, -, ht⟩ := s.handle_trace q.request q.arrival q.network
  refine ⟨t, fun freshId => ?_⟩
  have hdone : s.handle (q.withFresh freshId).request (q.withFresh freshId).arrival (q.enter site) = _ :=
    ht freshId (q.enter site) rfl
  have hentered : (q.withFresh freshId).enter site = q.enter site := rfl
  rw [attend, hentered, hdone]

/-- A request leaves the journal as it is and the context empty. -/
theorem attend_left (site : Site) (q : Inquiry) :
    (s.attend site q).left.journal = site.journal ∧ (s.attend site q).left.context = .empty := by
  obtain ⟨t, ht⟩ := s.attend_trace site q
  have hq : s.attend site q = _ := ht q.arrival.freshId
  rw [hq]
  exact ⟨rfl, rfl⟩

/-- In an empty context, what a request finds hangs on the journal alone. -/
theorem enter_congr {site site' : Site} (hj : site.journal = site'.journal) (hc : site.context = site'.context)
    (q : Inquiry) : q.enter site = q.enter site' := by
  simp only [Inquiry.enter, Site.fresh, hj, hc]

theorem attend_congr {site site' : Site} (hj : site.journal = site'.journal) (hc : site.context = site'.context)
    (q : Inquiry) : s.attend site q = s.attend site' q := by
  simp only [attend, enter_congr hj hc]

/-- Requests that find an empty context are handled each as if it were the only one. -/
theorem serve_eq_map {site : Site} (hc : site.context = .empty) (qs : List Inquiry) :
    s.serve site qs = qs.map (s.attend site) := by
  -- what every request leaves for the next: the journal as it was, and an empty context
  suffices h : ∀ site' : Site, site'.journal = site.journal → site'.context = .empty →
      s.serve site' qs = qs.map (s.attend site) from h site rfl hc
  induction qs with
  | nil => exact fun _ _ _ => rfl
  | cons q qs ih =>
    intro site' hj' hc'
    obtain ⟨hleft, hempty⟩ := s.attend_left site' q
    rw [serve, List.map_cons, ih _ (hleft.trans hj') hempty, s.attend_congr hj' (hc'.trans hc.symm)]

theorem withoutId_forMethod (a : Http.Answer) (method : String) :
    withoutId (a.forMethod method) = (withoutId a).forMethod method := by
  unfold Http.Answer.forMethod
  split
  · rfl
  · rfl

/-- Whether two ids are alike as to how they are written: they take as many characters. -/
def Alike (id id' : String) : Prop :=
  (Json.quotedSymbols id).length = (Json.quotedSymbols id').length

theorem FreshId.length_quotedSymbols (id : FreshId) : (Json.quotedSymbols id.text).length = 38 := by
  have hall : "0123456789abcdef-".toList.all (fun c => Json.escapeSymbol (.char c) == [.char c]) = true := by decide
  have hplain : ∀ c ∈ "0123456789abcdef-".toList, Json.escapeSymbol (.char c) = [.char c] :=
    fun c hc => eq_of_beq (List.all_eq_true.1 hall c hc)
  have hescape : ∀ cs : List Char, (∀ c ∈ cs, c ∈ "0123456789abcdef-".toList) →
      (cs.map Symbol.char).flatMap Json.escapeSymbol = cs.map .char := by
    intro cs hcs
    induction cs with
    | nil => rfl
    | cons c cs ih =>
      obtain ⟨hc, hrest⟩ := List.forall_mem_cons.1 hcs
      rw [List.map_cons, List.flatMap_cons, hplain c hc, ih hrest, List.singleton_append]
  have hmem : ∀ c ∈ id.text.toList, c ∈ "0123456789abcdef-".toList := by
    intro c hc
    simpa using List.all_eq_true.1 id.plain c hc
  have hlength : id.text.toList.length = 36 := String.length_toList.trans id.length_eq
  rw [Json.quotedSymbols, Text.symbols_whole, hescape _ hmem]
  simp [hlength]

/-- Whichever id is made up, a request is known by ids that are alike. -/
theorem alike_idOf (request : Http.Incoming) (freshId freshId' : FreshId) :
    Alike (idOf request freshId) (idOf request freshId') := by
  unfold idOf Alike
  cases request.header? "x-request-id" with
  | some id => rfl
  | none => exact freshId.length_quotedSymbols.trans freshId'.length_quotedSymbols.symm

/-- The id stands in front of all that is refused in a failure, so that the words of refusal tell its length alone. -/
theorem refusal?_response_congr {id id' : String} (h : Alike id id') (f : Failure) :
    (Json.obj (f.response (some id)).members).refusal? = (Json.obj (f.response (some id')).members).refusal? := by
  let own : Json.Members := [("code", .str f.code), ("message", .str f.message), ("details", .obj f.details)]
  have hsymbols : ∀ id : String, Json.symbols (.obj (f.response (some id)).members) =
      (.char '\x7b' :: (Json.quotedSymbols "request_id" ++ .char ':' :: Json.quotedSymbols id)) ++
        (.char ',' :: (Json.memberSymbols own ++ [.char '\x7d'])) := by
    intro id
    simp [Failure.response, ErrorResponse.members, own, Json.symbols, Json.memberSymbols, Json.ofOption]
  have hadmits : ∀ id : String, ∀ s ∈ Symbol.char '\x7b' :: (Json.quotedSymbols "request_id" ++
      .char ':' :: Json.quotedSymbols id), Utf8.admits s = true := by
    intro id
    have hname := (Json.forall_admits_quoted_iff "request_id").2 rfl
    have hid := (Json.forall_admits_quoted_iff id).2 rfl
    simp only [List.forall_mem_cons, List.forall_mem_append]
    exact ⟨rfl, hname, rfl, hid⟩
  rw [Json.refusal?, Json.refusal?, Utf8.refusal?, Utf8.refusal?, hsymbols, hsymbols]
  refine unencodable?_append _ _ _ (hadmits id) (hadmits id') ?_ _
  unfold Alike at h
  simp [h]

/-- Under ids that are alike, a reaction is answered in the same way apart from the id, or breaks in the same way. -/
theorem Reaction.answered_congr {id id' : String} (h : Alike id id') (r : Reaction) :
    (∃ b, r.answered (some id) = .error b ∧ r.answered (some id') = .error b) ∨
      ∃ a a', r.answered (some id) = .ok a ∧ r.answered (some id') = .ok a' ∧ a.status = a'.status ∧
        withoutId a = withoutId a' := by
  cases r with
  | told a => exact .inr ⟨a, a, rfl, rfl, rfl, rfl⟩
  | broken b => exact .inl ⟨b, rfl, rfl⟩
  | failed f =>
    simp only [Reaction.answered, tell, refusal?_response_congr h f]
    cases (Json.obj (f.response (some id')).members).refusal? with
    | some words => exact .inl ⟨_, rfl, rfl⟩
    | none => exact .inr ⟨_, _, rfl, rfl, rfl, rfl⟩

/-- Apart from the id, a reaction is answered in the same way under ids that are alike. -/
theorem withoutId_sentAs (request : Http.Incoming) {id id' : String} (h : Alike id id') (r : Reaction) :
    withoutId (r.sentAs request id) = withoutId (r.sentAs request id') := by
  unfold Reaction.sentAs
  rcases r.answered_congr h with ⟨b, hb, hb'⟩ | ⟨a, a', ha, ha', -, hsame⟩
  · rw [hb, hb']
  · rw [ha, ha', withoutId_forMethod, withoutId_forMethod]
    exact congrArg (·.forMethod request.method) hsame

/-- Apart from the id, a reaction is written down in the same way under ids that are alike. -/
theorem without_last (request : Http.Incoming) (journal : Journal) (c : Correlation) {id id' : String}
    (h : Alike id id') (r : Reaction) :
    (Site.written journal (r.lastContext { c with requestId := some id } id)
        [.entry (r.lastEntry s request id)]).map Json.withoutId =
      (Site.written journal (r.lastContext { c with requestId := some id' } id')
        [.entry (r.lastEntry s request id')]).map Json.withoutId := by
  unfold Reaction.lastContext Reaction.lastEntry
  rcases r.answered_congr h with ⟨b, hb, hb'⟩ | ⟨a, a', ha, ha', hstatus, -⟩
  · rw [hb, hb']
  · rw [ha, ha']
    simp only [hstatus]
    exact Site.without_written journal c (some ↑id) (some ↑id') _

/-- Which id is fresh shows in the id alone. -/
theorem shown_withFresh (site : Site) (q : Inquiry) (freshId : FreshId) :
    (s.attend site (q.withFresh freshId)).shown.withoutId = (s.attend site q).shown.withoutId := by
  obtain ⟨t, ht⟩ := s.attend_trace site q
  have hq : s.attend site q = _ := ht q.arrival.freshId
  have hids := alike_idOf q.request freshId q.arrival.freshId
  have hmarks := Site.without_written (q.enter site).journal (q.enter site).context
    (some ↑(idOf q.request freshId)) (some ↑(idOf q.request q.arrival.freshId)) t.marks
  have hlast := s.without_last q.request (q.enter site).journal (q.enter site).context hids t.value
  rw [ht freshId, hq]
  simp only [Handled.shown, Shown.withoutId, leave, List.map_append, hmarks, hlast, withoutId_sentAs _ hids]

/-- Under one id, all that is shown is the same. -/
theorem shown_of_idOf_eq {site : Site} {q : Inquiry} {freshId : FreshId}
    (h : idOf q.request freshId = idOf q.request q.arrival.freshId) :
    (s.attend site (q.withFresh freshId)).shown = (s.attend site q).shown := by
  obtain ⟨t, ht⟩ := s.attend_trace site q
  have hq : s.attend site q = _ := ht q.arrival.freshId
  rw [ht freshId, hq, h]
  rfl

/-- What a service is set up from. -/
structure Blueprint where
  name : String
  offersProvider : Bool
  environment : Table String
  settings : ServiceSettings

/-- Sets a service up, with nobody in the context yet, and hands it requests one after another. -/
def Blueprint.serve (b : Blueprint) (journal : Journal) (qs : List Inquiry) : Except Trouble (List Handled) :=
  let (standing, site) := setUp b.name b.offersProvider b.environment b.settings { journal }
  standing.map fun standing => standing.service.serve site qs

theorem setUp_context (name : String) (offersProvider : Bool) (environment : Table String) (settings : ServiceSettings)
    (site : Site) : (setUp name offersProvider environment settings site).2.context = site.context := by
  unfold setUp
  split
  split
  · rfl
  · rfl

/-- A service that is set up hands every request to the same service and the same surroundings. -/
theorem Blueprint.serve_eq_ok {b : Blueprint} {journal : Journal} {qs : List Inquiry} {ts : List Handled}
    (h : b.serve journal qs = .ok ts) : ∃ (s : Service) (site : Site), site.context = .empty ∧
      ∀ qs, b.serve journal qs = .ok (qs.map (s.attend site)) := by
  have hempty := setUp_context b.name b.offersProvider b.environment b.settings { journal }
  unfold serve at h ⊢
  cases hdone : setUp b.name b.offersProvider b.environment b.settings { journal } with
  | mk standing site =>
    rw [hdone] at h hempty
    cases standing with
    | error trouble => cases h
    | ok standing =>
      refine ⟨standing.service, site, hempty, fun qs => ?_⟩
      exact congrArg _ (standing.service.serve_eq_map hempty qs)

/-- Requests are isolated from each other. Each finds an empty context and leaves one, and shows what it shows when it is
the only one that a service of the same making is handed, apart from an id that is not its own. -/
theorem Blueprint.serve_isolates {b : Blueprint} {journal : Journal} {qs : List Inquiry} {ts : List Handled}
    (h : b.serve journal qs = .ok ts) :
    ts.map Handled.inquiry = qs ∧ ∀ t ∈ ts, t.around.context = .empty ∧ t.left.context = .empty ∧
      ∀ freshId, ∃ lone, b.serve journal [t.inquiry.withFresh freshId] = .ok [lone] ∧
        lone.shown.withoutId = t.shown.withoutId ∧
        (idOf t.inquiry.request freshId = idOf t.inquiry.request t.inquiry.arrival.freshId → lone.shown = t.shown) := by
  obtain ⟨s, site, hempty, hserve⟩ := serve_eq_ok h
  obtain rfl : qs.map (s.attend site) = ts := Except.ok.inj ((hserve qs).symm.trans h)
  have hinquiry : Handled.inquiry ∘ s.attend site = id := rfl
  refine ⟨by rw [List.map_map, hinquiry, List.map_id], fun t ht => ?_⟩
  obtain ⟨q, -, rfl⟩ := List.mem_map.1 ht
  refine ⟨hempty, (s.attend_left site q).2, fun freshId => ⟨_, hserve _, ?_, ?_⟩⟩
  · exact s.shown_withFresh site q freshId
  · exact s.shown_of_idOf_eq

/-- After a breakdown under the id and the user of another request, a profile that is asked for without a token. -/
theorem Blueprint.serve_isolates_of_two :
    let settings : ServiceSettings :=
      { environment := "local", logLevel := "info", signOnHost := "sso.test", identityHost := "id.test"
        allowedGroups := ["ops"], loginUrl := none, redeemUrl := none, profileUrl := none, validateUrl := none
        scope := "", requestTimeout := ProviderData.tenSeconds, extras := [], serviceName := "sso", port := 8013
        host := "0.0.0.0" }
    let b : Blueprint := ⟨"sso", true, [], settings⟩
    let json : Headers := [("content-type", "application/json")]
    let fresh : FreshId := ⟨"00000000-0000-4000-8000-000000000000", by decide, by decide⟩
    let other : FreshId := ⟨"01234567-89ab-4def-8123-456789abcdef", by decide, by decide⟩
    let one : Inquiry :=
      ⟨⟨"POST", "/auth/session/authorize", "", ("x-request-id", "req-1") :: json,
        Utf8.encode "\x7b\x22user\x22: \x22uid=j\x22, \x22email\x22: \x22j@x\x22\x7d".toList⟩,
        ⟨0, Binary64.zero, fresh⟩, { script := [.broken ⟨.runtime, "bug"⟩] }⟩
    let two : Inquiry :=
      ⟨⟨"POST", "/auth/profile", "", json, Utf8.encode "\x7b\x7d".toList⟩, ⟨0, Binary64.zero, fresh⟩, {}⟩
    ∃ first second lone, b.serve .unconfigured [one, two] = .ok [first, second] ∧
      b.serve .unconfigured [two.withFresh other] = .ok [lone] ∧ first.shown.answer.status = 500 ∧
      first.left.context = .empty ∧ second.shown.answer.status = 401 ∧ second.shown.records.length = 2 ∧
      second.shown ≠ lone.shown ∧ second.shown.withoutId = lone.shown.withoutId := by
  intro settings b json fresh other one two
  let s : Service := ⟨"sso", some settings.provider, true, "unknown"⟩
  let first := s.attend { journal := .writing 20 } one
  let second := s.attend first.left two
  have hserve : ∀ qs, b.serve .unconfigured qs = .ok (s.serve { journal := .writing 20 } qs) := by
    have hjournal : Journal.configure .unconfigured "info" = (.writing 20, .ok ()) := by decide +kernel
    intro qs
    simp only [serve, setUp, b, settings, hjournal]
    rfl
  obtain ⟨-, hts⟩ := serve_isolates (hserve [one, two])
  obtain ⟨-, hfirst, -⟩ := hts first (.head _)
  obtain ⟨-, -, hlone⟩ := hts second (.tail _ (.head _))
  obtain ⟨lone, hlone, hsame, -⟩ := hlone other
  have hids : second.shown.answer.requestId = some fresh.text ∧
      (s.attend { journal := .writing 20 } (two.withFresh other)).shown.answer.requestId = some other.text := by decide +kernel
  refine ⟨first, second, lone, hserve _, hlone, by decide +kernel, hfirst, by decide +kernel, by decide +kernel, ?_,
    hsame.symm⟩
  intro heq
  obtain rfl : lone = _ := by
    have hother := hlone.symm.trans (hserve [two.withFresh other])
    exact (List.cons.inj (Except.ok.inj hother)).1
  rw [heq, hids.2] at hids
  exact absurd hids.1 (by decide)

end Service

end SignOn
