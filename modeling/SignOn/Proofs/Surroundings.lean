import SignOn.Provider.Basic

/-!
Actions as functions of their surroundings: for each of them the value it gives and the surroundings it leaves. A
request takes one reply off the network; a record is offered to the journal; journal and context never change.
-/

namespace SignOn

instance decidableEqExcept {ε α : Type} [DecidableEq ε] [DecidableEq α] : DecidableEq (Except ε α)
  | .ok a, .ok b => decidable_of_iff (a = b) (by simp)
  | .error e, .error e' => decidable_of_iff (e = e') (by simp)
  | .ok _, .error _ => isFalse nofun
  | .error _, .ok _ => isFalse nofun

namespace Site

variable (site : Site)

/-- The surroundings after a request has gone out. -/
def asked (request : Request) (timeout : Binary64) : Site :=
  { site with network := (site.network.ask request).2, sent := site.sent ++ [⟨request, timeout⟩] }

/-- The surroundings after some records have been offered to the journal. -/
def noted (entries : List Log.Entry) : Site :=
  entries.foldl record site

@[simp] theorem asked_network (request : Request) (timeout : Binary64) :
    (site.asked request timeout).network = (site.network.ask request).2 := rfl

@[simp] theorem asked_sent (request : Request) (timeout : Binary64) :
    (site.asked request timeout).sent = site.sent ++ [⟨request, timeout⟩] := rfl

@[simp] theorem asked_journal (request : Request) (timeout : Binary64) :
    (site.asked request timeout).journal = site.journal := rfl

@[simp] theorem asked_context (request : Request) (timeout : Binary64) :
    (site.asked request timeout).context = site.context := rfl

@[simp] theorem asked_records (request : Request) (timeout : Binary64) :
    (site.asked request timeout).records = site.records := rfl

@[simp] theorem noted_nil : site.noted [] = site := rfl

@[simp] theorem noted_cons (entry : Log.Entry) (entries : List Log.Entry) :
    site.noted (entry :: entries) = (site.record entry).noted entries := rfl

/-- Records that are offered change nothing but what is written. -/
theorem noted_frame (entries : List Log.Entry) : ∃ records, site.noted entries = { site with records } := by
  induction entries generalizing site with
  | nil => exact ⟨site.records, rfl⟩
  | cons entry entries ih =>
    obtain ⟨records, h⟩ := ih (site.record entry)
    refine ⟨records, ?_⟩
    rw [noted_cons, h, record_network, record_sent, record_journal, record_context]

@[simp] theorem noted_network (entries : List Log.Entry) : (site.noted entries).network = site.network := by
  obtain ⟨records, h⟩ := site.noted_frame entries
  rw [h]

@[simp] theorem noted_sent (entries : List Log.Entry) : (site.noted entries).sent = site.sent := by
  obtain ⟨records, h⟩ := site.noted_frame entries
  rw [h]

@[simp] theorem noted_journal (entries : List Log.Entry) : (site.noted entries).journal = site.journal := by
  obtain ⟨records, h⟩ := site.noted_frame entries
  rw [h]

@[simp] theorem noted_context (entries : List Log.Entry) : (site.noted entries).context = site.context := by
  obtain ⟨records, h⟩ := site.noted_frame entries
  rw [h]

theorem note_apply (level : Level) (logger event : String) (fields : Json.Members) :
    note level logger event fields site = ((), site.noted [⟨level, logger, event, fields⟩]) := rfl

theorem send_apply (request : Request) (timeout : Binary64) :
    send request timeout site = ((site.network.ask request).1, site.asked request timeout) := rfl

end Site

namespace Effect

variable {α β : Type}

theorem pure_apply (a : α) (site : Site) : (pure a : Effect α) site = (a, site) := rfl

theorem bind_apply (x : Effect α) (f : α → Effect β) (site : Site) :
    (x >>= f) site = f (x site).1 (x site).2 := rfl

end Effect

/-- Without headers, a request can be made for every address. -/
theorem Request.make_get (url : Url) : ∃ request, make "GET" url [] = .ok request ∧ request.url = url :=
  ⟨_, rfl, rfl⟩

namespace Exchange

/-- The record that a remark on a reply is written as. -/
def Remark.entry (r : Remark) : Log.Entry :=
  ⟨r.level, logger, r.event, r.fields⟩

theorem remark_apply (remarks : List Remark) (site : Site) :
    remark remarks site = ((), site.noted (remarks.map Remark.entry)) := by
  induction remarks generalizing site with
  | nil => rfl
  | cons r remarks ih => exact ih (site.record r.entry)

theorem fetch_apply {α : Type} (request : Request) (target : Target α) (service : String) (timeout : Binary64)
    (site : Site) :
    fetch request target service timeout site =
      ((judge target service request.url.text (site.network.ask request).1).2,
        (site.asked request timeout).noted
          ((judge target service request.url.text (site.network.ask request).1).1.map Remark.entry)) := by
  simp only [fetch, Effect.bind_apply, Site.send_apply, remark_apply, Effect.pure_apply]

theorem validateToken_of_empty {address : Option String} {token : Text} (headers : Table Text)
    (timeout : Binary64) (site : Site) (h : token = "" ∨ address.getD "" = "") :
    validateToken address token headers timeout site = (.ok false, site) := by
  simp only [validateToken, h, ↓reduceIte, Effect.pure_apply]

theorem validateToken_of_error {address : Option String} {token : Text} {headers : Table Text} {trouble : Trouble}
    (timeout : Binary64) (site : Site) (h : ¬(token = "" ∨ address.getD "" = ""))
    (hr : tokenRequest (address.getD "") token headers = .error trouble) :
    validateToken address token headers timeout site = (.error trouble, site) := by
  simp only [validateToken, h, ↓reduceIte, hr, Effect.pure_apply]

theorem validateToken_of_ok {address : Option String} {token : Text} {headers : Table Text} {request : Request}
    {endpoint : String} (timeout : Binary64) (site : Site) (h : ¬(token = "" ∨ address.getD "" = ""))
    (hr : tokenRequest (address.getD "") token headers = .ok (request, endpoint)) :
    validateToken address token headers timeout site =
      ((judgeToken endpoint (site.network.ask request).1).2,
        (site.asked request timeout).noted
          ((judgeToken endpoint (site.network.ask request).1).1.map Remark.entry)) := by
  simp only [validateToken, h, ↓reduceIte, hr, Effect.bind_apply, Site.send_apply, remark_apply, Effect.pure_apply]

end Exchange

end SignOn
