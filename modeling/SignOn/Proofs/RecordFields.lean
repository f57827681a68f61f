import Mathlib.Data.List.Forall2
import SignOn.Proofs.RequestIds
import SignOn.Provider.Setup

/-!
Fields of records. Outside of a context a record tells every field of its call as it was given, save for one: the service
that a call names gives way to the service of the logger, which is the program itself and never the remote that failed.
-/

namespace SignOn

namespace Log

/-- Whether a record carries every field of a call with its value. -/
def Entry.CarriedBy (e : Entry) (record : Json.Members) : Prop :=
  ∀ (name : Text) value, e.fields.get? name = some value → record.get? name = some value

/-- What a record tells of a call outside of any context. -/
structure Entry.ToldBy (e : Entry) (record : Json.Members) : Prop where
  own : ∀ (name : Text) value, name ≠ "service" → e.fields.get? name = some value → record.get? name = some value
  service : record.get? "service" = some (.str "sso")
  event : record.get? "event" = some (.str e.event)
  logger : record.get? "logger" = some (.str e.logger)
  level : record.get? "level" = some (.str e.level.name)
  /-- nothing is added but those -/
  rest : ∀ (name : Text), name ∉ overwritten → e.fields.get? name = none → record.get? name = none

/-- Whether a call is made by this program, with no field that is set in the writing but perhaps a service. -/
structure Entry.Plain (e : Entry) : Prop where
  logger : serviceOf? e.logger = some "sso"
  fields : ∀ (name : Text), name ∈ e.fields.map (·.1) → name = "service" ∨ name ∉ overwritten

theorem stampService_of_serviceOf? {logger service : Text} (h : serviceOf? logger = some service)
    (ms : Json.Members) : stampService logger ms = ms.put "service" (.str service) := by
  rw [stampService, h]

theorem loggerName_of_serviceOf? {logger service : String} (h : serviceOf? logger = some ↑service) :
    loggerName logger = logger := by
  have hne : logger ≠ "" := by
    rintro rfl
    cases h
  rw [loggerName, if_neg hne]

theorem Entry.Plain.toldBy {e : Entry} (h : e.Plain) : e.ToldBy (e.members .empty) where
  own name value hservice hvalue := by
    have hname := h.fields name (List.mem_map_of_mem (Table.mem_of_get? hvalue))
    rw [e.get?_of_not_overwritten (hname.resolve_left hservice), hvalue]
  service := by
    rw [members, Correlation.stamp_empty, stampService_of_serviceOf? h.logger, Table.get?_put_self]
  event := e.get?_event .empty
  logger := by
    rw [members, Correlation.stamp_empty, get?_stampService (by decide), Table.get?_put_of_ne _ _ (by decide),
      Table.get?_put_self, loggerName_of_serviceOf? h.logger]
  level := by
    rw [members, Correlation.stamp_empty, get?_stampService (by decide), Table.get?_put_self]
  rest name hname hnone := by
    rw [e.get?_of_not_overwritten hname, hnone]

/-- A record carries all fields of its call exactly if the call names no other service than the program. -/
theorem Entry.ToldBy.carriedBy_iff {e : Entry} {record : Json.Members} (h : e.ToldBy record) :
    e.CarriedBy record ↔ ∀ label, e.fields.get? "service" = some label → label = .str "sso" := by
  constructor
  · intro hcarried label hlabel
    have htold := hcarried "service" label hlabel
    rw [h.service] at htold
    exact (Option.some.inj htold).symm
  · intro hlabel name value hvalue
    by_cases hname : name = "service"
    · rw [hname] at hvalue ⊢
      rw [h.service, hlabel value hvalue]
    · exact h.own name value hname hvalue

end Log

namespace Effect

variable {α : Type} {P : α → List Log.Entry → Prop}

/-- Whether an action comes to a value with log calls of that value, the same ones whatever the journal keeps, and writes
down outside of any context those that the journal writes, each as it is told. -/
def WritesDown (x : Effect α) (Calls : α → List Log.Entry → Prop) : Prop :=
  ∀ n : Network, ∃ (value : α) (calls : List Log.Entry), Calls value calls ∧
    ∀ site : Site, site.network = n → site.context = .empty → (x site).1 = value ∧
      ∃ written, (x site).2.records = site.records ++ written ∧
        List.Forall₂ Log.Entry.ToldBy (calls.filter fun e => site.journal.writes e.level) written

theorem written_of_calls (journal : Journal) (context : Correlation) (calls : List Log.Entry) :
    Site.written journal context (calls.map .entry) =
      (calls.filter fun e => journal.writes e.level).map (·.members context) := by
  induction calls with
  | nil => rfl
  | cons e calls ih =>
    rw [List.map_cons, Site.written, ih, List.filter_cons]
    split
    · rfl
    · rfl

theorem Notes.writesDown {x : Effect α} (hx : x.Notes P) (hplain : ∀ v calls, P v calls → ∀ e ∈ calls, e.Plain) :
    x.WritesDown P := by
  intro n
  obtain ⟨t, calls, hmarks, hcalls, ht⟩ := hx.trace n
  refine ⟨t.value, calls, hcalls, fun site hsite hcontext => ?_⟩
  rw [ht site hsite, site.after_frame, hmarks, written_of_calls, hcontext]
  refine ⟨rfl, _, rfl, List.forall₂_map_right_iff.2 (List.forall₂_same.2 fun e he => ?_)⟩
  exact (hplain t.value calls hcalls e (List.mem_of_mem_filter he)).toldBy

end Effect

section

variable {service url endpoint path : String} {token userKey : Text} {address : Option String} {headers : Table Text}
  {calls : List Log.Entry} {α : Type} {result : Except Trouble α} {valid : Except Trouble Bool}

namespace Exchange

theorem FetchCalls.plain (h : FetchCalls service url result calls) : ∀ e ∈ calls, e.Plain := by
  have hlogger : Log.serviceOf? logger = some "sso" := by decide
  have hanswered : ∀ status, (answeredEntry service url status).Plain := fun status =>
    ⟨hlogger, by simp [answeredEntry, Log.overwritten, Log.reserved]⟩
  cases h with
  | broken => simp
  | timedOut | lost => exact List.forall_mem_singleton.2 ⟨hlogger, by simp [Log.overwritten, Log.reserved]⟩
  | refused | unreadable | told => exact List.forall_mem_singleton.2 (hanswered _)
  | malformed =>
    exact List.forall_mem_cons.2 ⟨hanswered 200,
      List.forall_mem_singleton.2 ⟨hlogger, by simp [Log.overwritten, Log.reserved]⟩⟩

/-- All these calls name the service that was asked. -/
theorem FetchCalls.names_service (h : FetchCalls service url result calls) :
    ∀ e ∈ calls, e.fields.get? "service" = some (.str service) := by
  cases h with
  | broken => simp
  | timedOut | lost | refused | unreadable | told => exact List.forall_mem_singleton.2 rfl
  | malformed => exact List.forall_mem_cons.2 ⟨rfl, List.forall_mem_singleton.2 rfl⟩

theorem TokenCalls.plain (h : TokenCalls endpoint valid calls) : ∀ e ∈ calls, e.Plain := by
  have hlogger : Log.serviceOf? logger = some "sso" := by decide
  cases h with
  | broken | valid => simp
  | timedOut | lost | refused =>
    exact List.forall_mem_singleton.2 ⟨hlogger, by simp [Log.overwritten, Log.reserved]⟩

theorem ValidateCalls.plain (h : ValidateCalls address token headers valid calls) : ∀ e ∈ calls, e.Plain := by
  cases h with
  | nothing | noRequest => simp
  | judged hr h => exact h.plain

end Exchange

theorem Directory.LookupCalls.plain {d : Directory} (h : d.LookupCalls path result calls) : ∀ e ∈ calls, e.Plain := by
  have hlogger : Log.serviceOf? "sso.directory_client" = some "sso" := by decide
  have hlookup : (lookupEntry path).Plain := ⟨hlogger, by simp [lookupEntry, Log.overwritten, Log.reserved]⟩
  cases h with
  | noAddress hr => exact List.forall_mem_singleton.2 hlookup
  | judged hr h => exact List.forall_mem_cons.2 ⟨hlookup, h.plain⟩

namespace GroupCheck

variable {c : GroupCheck}

theorem ProfileCalls.plain {profile : Except Trouble (DirectoryEntry × List GroupInfo)}
    (h : c.ProfileCalls userKey profile calls) : ∀ e ∈ calls, e.Plain := by
  cases h with
  | torn => simp
  | noEntry hk he => exact he.plain
  | noGroups hk he hg | told hk he hg => exact List.forall_mem_append.2 ⟨he.plain, hg.plain⟩

theorem CheckCalls.plain (h : c.CheckCalls userKey valid calls) : ∀ e ∈ calls, e.Plain := by
  have hlogger : Log.serviceOf? logger = some "sso" := by decide
  cases h with
  | noKey => exact List.forall_mem_singleton.2 ⟨hlogger, by simp⟩
  | granted hl | refused hl | denied hl =>
    exact List.forall_mem_append.2 ⟨hl.plain,
      List.forall_mem_singleton.2 ⟨hlogger, by simp [Log.overwritten, Log.reserved]⟩⟩
  | cancelled hl | broken hl => exact hl.plain

end GroupCheck

theorem Resolver.ResolveCalls.plain {r : Resolver} {s : Session} {o : Outcome Unit} (h : r.ResolveCalls s o calls) :
    ∀ e ∈ calls, e.Plain := by
  have hlogger : Log.serviceOf? logger = some "sso" := by decide
  cases h with
  | known | noToken | noRequest => simp
  | failed hr ha => exact ha.plain
  | incomplete hr ha | told hr ha =>
    exact List.forall_mem_append.2 ⟨ha.plain,
      List.forall_mem_singleton.2 ⟨hlogger, by simp [Log.overwritten, Log.reserved]⟩⟩

theorem Provider.RefreshCalls.plain {p : Provider} {s : Session} {now : Instant} {o : Outcome Bool}
    (h : p.RefreshCalls s now o calls) : ∀ e ∈ calls, e.Plain := by
  have hlogger : Log.serviceOf? logger = some "sso" := by decide
  cases h with
  | skipped => simp
  | unanswered hc | beyond hc => exact hc.plain
  | lost hc | moved hc =>
    exact List.forall_mem_append.2 ⟨hc.plain,
      List.forall_mem_singleton.2 ⟨hlogger, by simp [Log.overwritten, Log.reserved]⟩⟩

end

namespace Provider

/-- What is written down outside of any context, by what an action comes to. Every record tells its call but for the
service that the call names: it tells the program's own, so that it carries the call whole only where no other service is
named. -/
theorem records_tell_calls {α : Type} (request : Request) (target : Target α) (service : String)
    (address : Option String) (token : Text) (headers : Table Text) (limit : Binary64) (r : Resolver) (c : GroupCheck)
    (userKey : Text) (p : Provider) (s : Session) (now : Instant) (timeout : Option Binary64) :
    (Exchange.fetch request target service limit).WritesDown (Exchange.FetchCalls service request.url.text) ∧
      (Exchange.validateToken address token headers limit).WritesDown (Exchange.ValidateCalls address token headers) ∧
      (r.resolve s timeout).WritesDown (r.ResolveCalls s) ∧
      (c.isAuthorized userKey timeout).WritesDown (c.CheckCalls userKey) ∧
      (p.refresh s now timeout).WritesDown (p.RefreshCalls s now) ∧
      (∀ url (result : Except Trouble α) calls, Exchange.FetchCalls service url result calls →
        ∀ e ∈ calls, e.fields.get? "service" = some (.str service)) ∧
      ∀ (e : Log.Entry) record, e.ToldBy record →
        (e.CarriedBy record ↔ ∀ label, e.fields.get? "service" = some label → label = .str "sso") := by
  refine ⟨?_, ?_, ?_, ?_, ?_, fun _ _ _ h => h.names_service, fun _ _ h => h.carriedBy_iff⟩
  · exact (Exchange.notes_fetch request target service limit).writesDown fun _ _ h => h.plain
  · exact (Exchange.notes_validateToken address token headers limit).writesDown fun _ _ h => h.plain
  · exact (r.notes_resolve s timeout).writesDown fun _ _ h => h.plain
  · exact (c.notes_isAuthorized userKey timeout).writesDown fun _ _ h => h.plain
  · exact (p.notes_refresh s now timeout).writesDown fun _ _ h => h.plain

/-- The directory cannot be reached: the one record about it keeps the address and the error, and tells the program's own
service for that of the call. -/
theorem records_tell_calls_of_lost :
    let request : Request := ⟨"GET", ⟨"http", "", "id.test", none, "/user/x", none, none⟩, [("host", "id.test")]⟩
    let done := Exchange.fetch request .directoryEntry "directory" Exchange.defaultTimeout
      { network := { script := [.failed .connect "refused"] }, journal := .writing 40 }
    ∃ calls call record, Exchange.FetchCalls "directory" "http://id.test/user/x" done.1 calls ∧ call ∈ calls ∧
      done.2.records = [record] ∧ record.get? "service" = some (.str "sso") ∧
      record.get? "url" = some (.str "http://id.test/user/x") ∧ record.get? "error" = some (.str "refused") ∧
      ¬call.CarriedBy record := by
  intro request done
  let record : Json.Members := [("service", .str "sso"), ("url", .str "http://id.test/user/x"), ("error", .str "refused"),
    ("event", .str "HTTP transport error"), ("logger", .str "sso.http_client"), ("level", .str "error")]
  have hone : done.2.records = [record] := by decide +kernel
  have hurl : request.url.text = "http://id.test/user/x" := by decide +kernel
  obtain ⟨hfetch, -, -, -, -, hservice, hcarried⟩ := records_tell_calls request .directoryEntry "directory" none "" []
    Exchange.defaultTimeout ⟨"", Exchange.defaultTimeout⟩ ⟨⟨"", Exchange.defaultTimeout⟩, []⟩ ""
    (make "sso.test" "id.test" [] {}) {} 0 none
  obtain ⟨value, calls, hcalls, hwritten⟩ := hfetch { script := [.failed .connect "refused"] }
  obtain ⟨hvalue, written, hrecords, htold⟩ :=
    hwritten { network := { script := [.failed .connect "refused"] }, journal := .writing 40 } rfl rfl
  -- the journal writes one record, hence one call
  have hdone : written = done.2.records := hrecords.symm
  rw [hdone, hone] at htold
  obtain ⟨call, rest, htell, -, hfilter⟩ := List.forall₂_cons_right_iff.1 htold
  have hcall : call ∈ calls := List.mem_of_mem_filter (hfilter ▸ List.mem_cons_self ..)
  have hresult : done.1 = value := hvalue
  refine ⟨calls, call, _, ?_, hcall, hone, htell.service, rfl, rfl, fun h => ?_⟩
  · rw [hresult, ← hurl]
    exact hcalls
  · exact absurd ((hcarried call _ htell).1 h _ (hservice _ _ _ hcalls call hcall)) (by decide)

end Provider

/-- Where the directory cannot be reached, its name is lost between the call and the record. -/
theorem Exchange.fetch_hides_service :
    let request : Request := ⟨"GET", ⟨"http", "", "id.test", none, "/user/x", none, none⟩, [("host", "id.test")]⟩
    let call : Log.Entry := ⟨.error, logger, "HTTP transport error",
      [("service", .str "directory"), ("url", .str "http://id.test/user/x"), ("error", .str "refused")]⟩
    let record : Json.Members := [("service", .str "sso"), ("url", .str "http://id.test/user/x"), ("error", .str "refused"),
      ("event", .str "HTTP transport error"), ("logger", .str "sso.http_client"), ("level", .str "error")]
    let site : Site := { network := { script := [.failed .connect "refused"] }, journal := .writing 40 }
    site.context = .empty ∧
      (judge .directoryEntry "directory" request.url.text (.failed .connect "refused")).1.map Remark.entry = [call] ∧
      (fetch request .directoryEntry "directory" defaultTimeout site).2.records = [record] ∧ ¬call.CarriedBy record := by
  refine ⟨rfl, by decide +kernel, by decide +kernel, fun h => ?_⟩
  have hservice := h "service" (.str "directory") rfl
  exact absurd hservice (by decide)

end SignOn
