import SignOn.Proofs.Handling
import SignOn.Provider.Setup

/-!
Which id a request is known by. The header of the answer, the body of an error and the records tell one id, the one that
the request bears or else a fresh one. A breakdown is the exception: it is answered and written down outside of the
context, where the id is not known.
-/

namespace SignOn

/-- Leaving out rows of other names does not change what is found. -/
theorem Table.get?_filter {α κ : Type} [DecidableEq κ] {p : κ → Bool} {name : κ} (h : p name = true) (t : Table α κ) :
    Table.get? (t.filter fun row => p row.1) name = t.get? name := by
  induction t with
  | nil => rfl
  | cons row t ih =>
    rw [List.filter_cons]
    split
    · rw [get?_cons, get?_cons, ih]
    · next hrow =>
      have hne : row.1 ≠ name := fun he => hrow (he ▸ h)
      rw [ih, get?_cons, if_neg hne]

namespace Log

/-- The names under which a record does not tell the fields of its call, whatever the context. -/
def overwritten : List Text :=
  "event" :: "logger" :: "level" :: "service" :: reserved

theorem get?_stampService {name : Text} (h : name ≠ "service") (logger : String) (ms : Json.Members) :
    (stampService logger ms).get? name = ms.get? name := by
  unfold stampService
  split
  · rfl
  · exact Table.get?_put_of_ne _ _ h

/-- A record tells its event, whatever it is stamped with. -/
theorem Entry.get?_event (e : Entry) (context : Correlation) :
    (e.members context).get? "event" = some (.str e.event) := by
  rw [members, Correlation.stamp, Correlation.get?_stampPart_of_ne (by decide),
    Correlation.get?_stampPart_of_ne (by decide), Correlation.get?_stampPart_of_ne (by decide),
    get?_stampService (by decide), Table.get?_put_of_ne _ _ (by decide), Table.get?_put_of_ne _ _ (by decide),
    Table.get?_put_self]

theorem Entry.members_eq (e : Entry) (context : Correlation) : e.members context = context.stamp (e.members .empty) :=
  rfl

/-- Outside of a context, a record tells the fields of its call as they are, save for those that are overwritten. -/
theorem Entry.get?_of_not_overwritten (e : Entry) {name : Text} (h : name ∉ overwritten) :
    (e.members .empty).get? name = e.fields.get? name := by
  simp only [overwritten, List.mem_cons, not_or] at h
  obtain ⟨hevent, hlogger, hlevel, hservice, hreserved⟩ := h
  rw [members, Correlation.stamp_empty, get?_stampService hservice, Table.get?_put_of_ne _ _ hlevel,
    Table.get?_put_of_ne _ _ hlogger, Table.get?_put_of_ne _ _ hevent,
    Table.get?_filter (p := fun name => !reserved.contains name) (by simpa using hreserved)]

/-- Outside of a context, a record tells no id that is not among its fields. -/
theorem Entry.get?_requestId_of_empty {e : Entry} (h : e.fields.get? "request_id" = none) :
    (e.members .empty).get? "request_id" = none := by
  rw [e.get?_of_not_overwritten (by decide), h]

end Log

namespace Service

/-- Whether a request shows its id: in the header of the answer, in the body of an error, and in all records unless the id
is empty. -/
structure Correlates (id : String) (answer : Http.Answer) (written : List Json.Members) : Prop where
  header : answer.requestId = some id
  body : ∀ ms : Json.Members, answer.body = .json (.obj ms) → Table.has ms "code" = true →
    ms.get? "request_id" = some (.str id)
  records : id ≠ "" → ∀ r ∈ written, r.get? "request_id" = some (.str id)

/-- Whether a request is answered without its id: by a bare 500, and with a last record that tells none. -/
structure Detached (id : String) (answer : Http.Answer) (written : List Json.Members) : Prop where
  header : answer.requestId = none
  status : answer.status = 500
  body : ∀ ms : Json.Members, answer.body = .json (.obj ms) → ms.get? "request_id" = none
  records : ∃ own last, written = own ++ last ∧ (id ≠ "" → ∀ r ∈ own, r.get? "request_id" = some (.str id)) ∧
    ∀ r ∈ last, r.get? "event" = some (.str "Unhandled exception") ∧ r.get? "request_id" = none

theorem Correlates.not_detached {id : String} {answer : Http.Answer} {written : List Json.Members}
    (h : Correlates id answer written) : ¬Detached id answer written := by
  intro hd
  have hheader := h.header
  rw [hd.header] at hheader
  cases hheader

variable {request : Http.Incoming} {id : String}

theorem header_forMethod (a : Http.Answer) (method : String) : (a.forMethod method).requestId = a.requestId := by
  unfold Http.Answer.forMethod
  split <;> rfl

theorem status_forMethod (a : Http.Answer) (method : String) : (a.forMethod method).status = a.status := by
  unfold Http.Answer.forMethod
  split <;> rfl

/-- A body that goes out is the body of the answer. -/
theorem body_of_forMethod {a : Http.Answer} {method : String} {v : Json} (h : (a.forMethod method).body = .json v) :
    a.body = .json v := by
  unfold Http.Answer.forMethod at h
  split at h
  · cases h
  · exact h

theorem correlates_of_answered {r : Reaction} {a : Http.Answer} (h : r.answered (some id) = .ok a)
    (hbare : ∀ a, r = .told a → a.requestId = none ∧ ¬TellsCode a) {written : List Json.Members}
    (hwritten : id ≠ "" → ∀ r ∈ written, r.get? "request_id" = some (.str id)) :
    Correlates id (r.sentAs request id) written := by
  have hsent : r.sentAs request id = { a with requestId := some id }.forMethod request.method := by
    rw [Reaction.sentAs, h]
  rw [hsent]
  refine ⟨header_forMethod _ _, ?_, hwritten⟩
  intro ms hbody hcode
  have hbody : a.body = .json (.obj ms) := body_of_forMethod (a := { a with requestId := some id }) hbody
  cases r with
  | told a' =>
    obtain rfl : a' = a := by simpa [Reaction.answered] using h
    exact absurd ⟨ms, hbody, hcode⟩ (hbare _ rfl).2
  | failed f =>
    obtain rfl := eq_of_tell h
    cases hbody
    rfl
  | broken b => cases h

theorem detached_of_error {s : Service} {r : Reaction} {b : Breakdown} (h : r.answered (some id) = .error b)
    {own : List Json.Members} (journal : Journal) (hown : id ≠ "" → ∀ r ∈ own, r.get? "request_id" = some (.str id)) :
    Detached id (r.sentAs request id) (own ++ Site.written journal .empty [.entry (s.breakdownEntry b)]) := by
  have hsent : r.sentAs request id = internalError.forMethod request.method := by
    rw [Reaction.sentAs, h]
  rw [hsent]
  -- `own` is written inside the context, the one record behind it outside
  refine ⟨header_forMethod _ _, status_forMethod _ _, ?_, own, _, rfl, hown, ?_⟩
  · intro ms hbody
    have hbody := body_of_forMethod (a := internalError) hbody
    cases hbody
    rfl
  · intro r hr
    rw [Site.written, Site.written, List.append_nil] at hr
    split at hr
    · obtain rfl := List.mem_singleton.1 hr
      exact ⟨Log.Entry.get?_event _ _, Log.Entry.get?_requestId_of_empty rfl⟩
    · cases hr

/-- What is shown of the id hangs on whether the reaction can be answered under it. -/
theorem Reaction.correlates_iff (s : Service) (request : Http.Incoming) {r : Reaction} {context : Correlation}
    (hid : context.requestId = some id) (hbare : ∀ a, r = .told a → a.requestId = none ∧ ¬TellsCode a)
    (journal : Journal) (marks : List Site.Mark) {written : List Json.Members}
    (hw : written = Site.written journal context marks ++
      Site.written journal (r.lastContext context id) [.entry (r.lastEntry s request id)]) :
    (Correlates id (r.sentAs request id) written ↔ ¬∃ b, r.answered (some id) = .error b) ∧
      (Detached id (r.sentAs request id) written ↔ ∃ b, r.answered (some id) = .error b) := by
  have hown : ∀ marks, id ≠ "" → ∀ r ∈ Site.written journal context marks, r.get? "request_id" = some (.str id) :=
    fun marks hne => Site.get?_requestId_of_written hid (mt Text.whole.inj hne) marks
  cases hanswered : r.answered (some id) with
  | error b =>
    have hd : Detached id (r.sentAs request id) written := by
      rw [hw, Reaction.lastContext, Reaction.lastEntry, hanswered]
      exact detached_of_error hanswered journal (hown marks)
    have hc : ¬Correlates id (r.sentAs request id) written := fun hc => hc.not_detached hd
    simp [hc, hd]
  | ok a =>
    have hc : Correlates id (r.sentAs request id) written := by
      refine correlates_of_answered hanswered hbare fun hne record hrecord => ?_
      rw [hw, Reaction.lastContext, hanswered] at hrecord
      rcases List.mem_append.1 hrecord with hrecord | hrecord
      · exact hown _ hne record hrecord
      · exact hown _ hne record hrecord
    simp [hc, hc.not_detached]

end Service

end SignOn
