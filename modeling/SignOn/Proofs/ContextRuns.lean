import Mathlib.Data.List.DropRight
import SignOn.Failure.Draft
import SignOn.Log.Logger
import SignOn.Proofs.RequestIds

/-!
The correlation context over runs. Whatever order it is written, cleared and logged in, the context holds what was given
last since it was cleared, and records and answers tell what it holds at the time.
-/

namespace SignOn

namespace Failure.Draft

theorem response_eq (d : Draft) (id : Option Text) :
    d.response id = ErrorResponse.mk <$> Checked.valid id <*> (Field.text d.code).within "code" <*>
      (Field.text d.message).within "message" <*> (Field.members d.details).within "details" := by
  cases id with
  | none => rfl
  | some id => rfl

/-- A failure is answered exactly if its parts have the right types, and by the id and those parts. -/
theorem response_eq_valid_iff (d : Draft) (id : Option Text) (answer : ErrorResponse) :
    d.response id = .valid answer ↔
      ∃ code message details, d.code = .str code ∧ d.message = .str message ∧ d.details = .obj details ∧
        answer = ⟨id, code, message, details⟩ := by
  simp only [response_eq, Checked.seq_eq_valid_iff, Checked.map_eq_valid_iff, Checked.within_eq_valid_iff,
    Field.text_eq_valid_iff, Field.members_eq_valid_iff]
  constructor
  · rintro ⟨_, details, ⟨_, message, ⟨_, code, ⟨_, hid, rfl⟩, hcode, rfl⟩, hmessage, rfl⟩, hdetails, rfl⟩
    cases hid
    exact ⟨code, message, details, hcode, hmessage, hdetails, rfl⟩
  · rintro ⟨code, message, details, hcode, hmessage, hdetails, rfl⟩
    exact ⟨_, details, ⟨_, message, ⟨_, code, ⟨_, rfl, rfl⟩, hcode, rfl⟩, hmessage, rfl⟩, hdetails, rfl⟩

end Failure.Draft

namespace Correlation

/-- A text, unless it is empty. -/
def nonEmpty (text : Option Text) : Option Text :=
  text.filter (· != "")

theorem replace_eq_or (old new : Option Text) : replace old new = (nonEmpty new).or old := by
  unfold replace
  split
  · rfl
  · rfl
  · next s hne => simp [nonEmpty, Option.filter, show s ≠ "" from hne]

/-- What a record tells under the name of a part of the context. -/
def told (part : Option Text) (own : Option Json) : Option Json :=
  ((nonEmpty part).map Json.str).or own

theorem get?_stampPart_told (name : String) (part : Option Text) (ms : Json.Members) :
    (stampPart name part ms).get? name = told part (ms.get? name) := by
  unfold stampPart
  split
  · rfl
  · rfl
  · next s hne =>
    rw [Table.get?_put_self]
    simp [told, nonEmpty, Option.filter, show s ≠ "" from hne]

/-- Whether a record tells a context, and the fields of its own call where the context has nothing to tell. -/
structure Shows (context : Correlation) (fields record : Json.Members) : Prop where
  requestId : record.get? "request_id" = told context.requestId (fields.get? "request_id")
  userId : record.get? "user_id" = told context.userId (fields.get? "user_id")
  email : record.get? "email" = told context.email (fields.get? "email")

theorem shows_members (e : Log.Entry) (context : Correlation) : Shows context e.fields (e.members context) := by
  rw [e.members_eq]
  refine ⟨?_, ?_, ?_⟩
  · rw [stamp, get?_stampPart_of_ne (by decide), get?_stampPart_of_ne (by decide), get?_stampPart_told,
      e.get?_of_not_overwritten (by decide)]
  · rw [stamp, get?_stampPart_of_ne (by decide), get?_stampPart_told, get?_stampPart_of_ne (by decide),
      e.get?_of_not_overwritten (by decide)]
  · rw [stamp, get?_stampPart_told, get?_stampPart_of_ne (by decide), get?_stampPart_of_ne (by decide),
      e.get?_of_not_overwritten (by decide)]

/-- What can be done to the context or in it. -/
inductive Turn where
  /-- with the id that stands ready where none is given -/
  | setRequest (given : Option Text) (fresh : Text)
  | setUser (userId email : Option Text)
  | clear
  | log (logger method event : String) (values : List Json) (fields : Json.Members)
  deriving DecidableEq

namespace Turn

def act : Turn → Site → Site
  | .setRequest given fresh, site => { site with context := site.context.setRequest given fresh }
  | .setUser userId email, site => { site with context := site.context.setUser userId email }
  | .clear, site => { site with context := .empty }
  | .log logger method event values fields, site => (Log.log logger method event values fields site).2

/-- What a turn gives for the request id, which may be empty. -/
def requestId? : Turn → Option Text
  | .setRequest given fresh => some (given.getD fresh)
  | _ => none

def userId? : Turn → Option Text
  | .setUser userId _ => nonEmpty userId
  | _ => none

def email? : Turn → Option Text
  | .setUser _ email => nonEmpty email
  | _ => none

def run (turns : List Turn) (site : Site) : Site :=
  turns.foldl (fun site turn => turn.act site) site

/-- The turns since the context was last cleared. -/
def sinceClear (turns : List Turn) : List Turn :=
  turns.rtakeWhile (· ≠ clear)

/-- What was given last since the context was last cleared. -/
def lastGiven (part : Turn → Option Text) (turns : List Turn) : Option Text :=
  ((sinceClear turns).filterMap part).getLast?

/-- What a context holds after some turns. -/
def contextAfter (turns : List Turn) : Correlation :=
  ⟨lastGiven requestId? turns, lastGiven userId? turns, lastGiven email? turns⟩

/-- What a turn can write in a context. -/
inductive Writes (context : Correlation) : Turn → List Json.Members → Prop
  | nothing (turn : Turn) : Writes context turn []
  | record {logger method event : String} {values : List Json} {fields record : Json.Members}
      (h : Shows context fields record) : Writes context (.log logger method event values fields) [record]

theorem run_snoc (turns : List Turn) (turn : Turn) (site : Site) :
    run (turns ++ [turn]) site = turn.act (run turns site) := by
  simp [run]

section

variable {part : Turn → Option Text} (turns : List Turn)

theorem lastGiven_clear : lastGiven part (turns ++ [clear]) = none := by
  rw [lastGiven, sinceClear, List.rtakeWhile_concat_neg _ _ _ (by simp)]
  rfl

theorem lastGiven_snoc {turn : Turn} (h : turn ≠ clear) :
    lastGiven part (turns ++ [turn]) = (part turn).or (lastGiven part turns) := by
  rw [lastGiven, sinceClear, List.rtakeWhile_concat_pos _ _ _ (by simpa using h), List.filterMap_append,
    List.getLast?_append]
  cases hpart : part turn with
  | none => simp [hpart, lastGiven, sinceClear]
  | some value => simp [hpart]

end

theorem log_cases (logger method event : String) (values : List Json) (fields : Json.Members) (site : Site) :
    (Log.log logger method event values fields site).2 = site ∨
      ∃ entry : Log.Entry, entry.fields = fields ∧
        (Log.log logger method event values fields site).2 = site.record entry := by
  unfold Log.log
  split
  · exact .inl rfl
  · split
    · exact .inl rfl
    · split
      · split
        · exact .inl rfl
        · exact .inr ⟨_, rfl, rfl⟩
      · exact .inl rfl

theorem contextAfter_snoc (turns : List Turn) {turn : Turn} (h : turn ≠ clear) :
    contextAfter (turns ++ [turn]) =
      ⟨(requestId? turn).or (contextAfter turns).requestId, (userId? turn).or (contextAfter turns).userId,
        (email? turn).or (contextAfter turns).email⟩ := by
  simp only [contextAfter, lastGiven_snoc turns h]

/-- A turn leaves the context that its last values make of the old one. -/
theorem context_act (turns : List Turn) (turn : Turn) {site : Site} (h : site.context = contextAfter turns) :
    (turn.act site).context = contextAfter (turns ++ [turn]) := by
  cases turn with
  | clear => simp only [act, contextAfter, lastGiven_clear, empty]
  | setRequest given fresh =>
    rw [contextAfter_snoc turns (by simp), act, h]
    rfl
  | setUser userId email =>
    rw [contextAfter_snoc turns (by simp), act, h, Correlation.setUser, replace_eq_or,
      replace_eq_or]
    rfl
  | log logger method event values fields =>
    rw [contextAfter_snoc turns (by simp), ← h]
    rcases log_cases logger method event values fields site with hlog | ⟨entry, -, hlog⟩
    · rw [act, hlog]
      rfl
    · rw [act, hlog, site.record_context]
      rfl

/-- A turn adds to the records what it can write in the context. -/
theorem records_act (turn : Turn) (site : Site) :
    ∃ written, (turn.act site).records = site.records ++ written ∧ Writes site.context turn written := by
  cases turn with
  | clear => exact ⟨[], (List.append_nil _).symm, .nothing _⟩
  | setRequest given fresh => exact ⟨[], (List.append_nil _).symm, .nothing _⟩
  | setUser userId email => exact ⟨[], (List.append_nil _).symm, .nothing _⟩
  | log logger method event values fields =>
    rcases log_cases logger method event values fields site with hlog | ⟨entry, rfl, hlog⟩
    · exact ⟨[], by rw [act, hlog, List.append_nil], .nothing _⟩
    · rw [act, hlog, Site.record]
      split
      · exact ⟨_, rfl, .record (shows_members entry site.context)⟩
      · exact ⟨[], (List.append_nil _).symm, .nothing _⟩

/-- What a run writes from an empty context on, turn by turn. -/
inductive Tells : List Turn → List Json.Members → Prop
  | nil : Tells [] []
  | snoc {turns : List Turn} {records written : List Json.Members} {turn : Turn} (h : Tells turns records)
      (hw : Writes (contextAfter turns) turn written) : Tells (turns ++ [turn]) (records ++ written)

theorem run_spec (turns : List Turn) {site : Site} (h : site.context = .empty) :
    (run turns site).context = contextAfter turns ∧
      ∃ written, (run turns site).records = site.records ++ written ∧ Tells turns written := by
  induction turns using List.reverseRecOn with
  | nil => exact ⟨h, [], (List.append_nil _).symm, .nil⟩
  | append_singleton turns turn ih =>
    obtain ⟨hcontext, records, hrecords, htells⟩ := ih
    obtain ⟨written, hwritten, hw⟩ := records_act turn (run turns site)
    rw [hcontext] at hw
    rw [run_snoc]
    exact ⟨context_act turns turn hcontext, records ++ written, by rw [hwritten, hrecords, List.append_assoc],
      htells.snoc hw⟩

/-- A call that goes through is written down if its level is. -/
theorem exists_record_of_log {logger method event : String} {values : List Json} {fields : Json.Members} {site : Site}
    {level : Level} (hlevel : Level.ofMethod? method = some level) (hwrites : site.journal.writes level = true)
    (hok : (Log.log logger method event values fields site).1 = .ok ()) :
    ∃ record, (Log.log logger method event values fields site).2.records = site.records ++ [record] ∧
      Shows site.context fields record := by
  unfold Log.log at hok ⊢
  split at hok
  · cases hok
  · next hnames =>
    rw [if_neg hnames]
    simp only [hlevel, if_pos (Journal.works_of_writes hwrites)] at hok ⊢
    cases hfilled : Log.filled site.journal event values with
    | error trouble =>
      rw [hfilled] at hok
      cases hok
    | ok told =>
      refine ⟨_, ?_, shows_members ⟨level, logger, told, fields⟩ site.context⟩
      simp only [Site.record, hwrites, if_true]

/-- The context over a run. It holds what was given last since it was cleared; whatever the run has written tells the
context of its time, and what is written or answered next tells that of the end. -/
theorem run_tells_context (turns : List Turn) (site : Site) :
    let left := run turns { site with context := .empty }
    left.context = contextAfter turns ∧
      (∃ written, left.records = site.records ++ written ∧ Tells turns written) ∧
      (∀ logger method event values fields level, Level.ofMethod? method = some level →
        left.journal.writes level = true → (Log.log logger method event values fields left).1 = .ok () →
          ∃ record, (Log.log logger method event values fields left).2.records = left.records ++ [record] ∧
            Shows (contextAfter turns) fields record) ∧
      (∀ (d : Failure.Draft) answer, d.response left.context.requestId = .valid answer ↔
        ∃ code message details, d.code = .str code ∧ d.message = .str message ∧ d.details = .obj details ∧
          answer = ⟨lastGiven requestId? turns, code, message, details⟩) ∧
      ∀ (s : Service) f, (s.report f left).1 = Service.tell f.status
        [("request_id", Json.ofOption (lastGiven requestId? turns)), ("code", .str f.code), ("message", .str f.message),
          ("details", .obj f.details)] := by
  intro left
  obtain ⟨hcontext, hwritten⟩ := run_spec turns (rfl : { site with context := .empty }.context = .empty)
  have hid : left.context.requestId = lastGiven requestId? turns := congrArg Correlation.requestId hcontext
  refine ⟨hcontext, hwritten, ?_, fun d answer => ?_, fun s f => ?_⟩
  · intro logger method event values fields level hlevel hwrites hok
    rw [← hcontext]
    exact exists_record_of_log hlevel hwrites hok
  · rw [hid]
    exact d.response_eq_valid_iff _ answer
  · rw [s.report_apply, ← hid]
    rfl

/-- An empty id behind a cleared one: records keep their own id, answers tell the empty one. -/
theorem run_tells_context_of_cleared :
    let turns := [setRequest (some "r-1") "fresh", setUser (some "u") (some "u@x"), clear, setUser (some "") (some "e@x"),
      setRequest (some "") "fresh"]
    let fields : Json.Members := [("request_id", .str "own"), ("user_id", .str "me"), ("email", .str "me@x")]
    let left := run turns { journal := .writing 20 }
    left.context = ⟨some "", none, some "e@x"⟩ ∧
      (∃ record, (Log.log "sso.groups" "info" "checked" [] fields left).2.records = [record] ∧
        record.get? "request_id" = some (.str "own") ∧ record.get? "user_id" = some (.str "me") ∧
        record.get? "email" = some (.str "e@x")) ∧
      ∃ answer body, (Service.report ⟨"sso", none, false, "unknown"⟩ .missingCredential left).1 = .ok answer ∧
        answer.body = .json (.obj body) ∧ Table.get? body "request_id" = some (.str "") := by
  intro turns fields left
  obtain ⟨hcontext, -, hlog, -, hreport⟩ := run_tells_context turns { journal := .writing 20 }
  have hafter : contextAfter turns = ⟨some "", none, some "e@x"⟩ := by decide
  obtain ⟨record, hrecord, hshows⟩ :=
    hlog "sso.groups" "info" "checked" [] fields .info (by decide) (by decide) (by decide)
  rw [hafter] at hshows
  have htold := hreport ⟨"sso", none, false, "unknown"⟩ .missingCredential
  rw [Service.tell_of_whole _ (by decide)] at htold
  refine ⟨hcontext.trans hafter, ⟨record, ?_, ?_, ?_, ?_⟩, _, _, htold, rfl, by decide⟩
  · exact hrecord
  · rw [hshows.requestId]
    decide
  · rw [hshows.userId]
    decide
  · rw [hshows.email]
    decide

end Turn

end Correlation

end SignOn
