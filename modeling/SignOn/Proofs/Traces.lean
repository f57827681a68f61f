import SignOn.Proofs.Run

/-!
What is written down has no say in what is done. On a network an action has one trace: the value it gives, the network it
leaves, the requests it sends and the marks it makes on log and context. The trace is the same whatever the journal keeps
and under whichever context.
-/

namespace SignOn

namespace Site

/-- A mark on the surroundings: a record that is offered to the journal, or a user that is taken into the context. -/
inductive Mark where
  | entry (e : Log.Entry)
  | user (s : Session)

def mark (site : Site) : Mark → Site
  | .entry e => site.record e
  | .user s => { site with context := site.context.setUser (some s.user) (some s.email) }

/-- The surroundings after some marks. -/
def marked (site : Site) (marks : List Mark) : Site :=
  marks.foldl mark site

variable (site : Site)

@[simp] theorem marked_nil : site.marked [] = site := rfl

@[simp] theorem marked_cons (m : Mark) (marks : List Mark) : site.marked (m :: marks) = (site.mark m).marked marks := rfl

theorem marked_append (marks marks' : List Mark) : site.marked (marks ++ marks') = (site.marked marks).marked marks' :=
  List.foldl_append

/-- A mark looks at neither network nor requests. -/
theorem mark_with (m : Mark) (network : Network) (sent : List Sent) :
    ({ site with network, sent } : Site).mark m = { site.mark m with network, sent } := by
  cases m with
  | entry e => by_cases hw : site.journal.writes e.level <;> simp [mark, record, hw]
  | user s => rfl

theorem marked_with (marks : List Mark) (network : Network) (sent : List Sent) :
    ({ site with network, sent } : Site).marked marks = { site.marked marks with network, sent } := by
  induction marks generalizing site with
  | nil => rfl
  | cons m marks ih => rw [marked_cons, mark_with, ih, marked_cons]

/-- Marks are made on records and context alone. -/
theorem marked_eq (marks : List Mark) :
    site.marked marks = { site.marked marks with network := site.network, sent := site.sent } :=
  site.marked_with marks site.network site.sent

@[simp] theorem marked_journal (marks : List Mark) : (site.marked marks).journal = site.journal := by
  induction marks generalizing site with
  | nil => rfl
  | cons m marks ih => cases m <;> simp [ih, mark]

@[simp] theorem marked_requestId (marks : List Mark) :
    (site.marked marks).context.requestId = site.context.requestId := by
  induction marks generalizing site with
  | nil => rfl
  | cons m marks ih => cases m <;> simp [ih, mark, Correlation.setUser]

/-- The records that marks leave behind, under a journal and a context. -/
def written (journal : Journal) (context : Correlation) : List Mark → List Json.Members
  | [] => []
  | .entry e :: marks =>
    (if journal.writes e.level then [e.members context] else []) ++ written journal context marks
  | .user s :: marks => written journal (context.setUser (some s.user) (some s.email)) marks

theorem marked_records (marks : List Mark) :
    (site.marked marks).records = site.records ++ written site.journal site.context marks := by
  induction marks generalizing site with
  | nil => simp [written]
  | cons m marks ih =>
    rw [marked_cons, ih]
    cases m with
    | entry e => by_cases hw : site.journal.writes e.level <;> simp [mark, record, written, hw]
    | user s => rfl

/-- A single record changes nothing else. -/
theorem record_frame (e : Log.Entry) :
    site.record e = { site with records := site.records ++ written site.journal site.context [.entry e] } := by
  by_cases hw : site.journal.writes e.level <;> simp [record, written, hw]

/-- Every record that is left behind tells the id of the context, unless the id is empty. -/
theorem get?_requestId_of_written {journal : Journal} {context : Correlation} {id : Text}
    (hid : context.requestId = some id) (hne : id ≠ "") (marks : List Mark) :
    ∀ r ∈ written journal context marks, r.get? "request_id" = some (.str id) := by
  induction marks generalizing context with
  | nil => simp [written]
  | cons m marks ih =>
    cases m with
    | entry e =>
      intro r hr
      rcases List.mem_append.1 hr with hr | hr
      · split at hr
        · obtain rfl := List.mem_singleton.1 hr
          exact Correlation.get?_stamp_requestId hid hne _
        · cases hr
      · exact ih hid r hr
    | user s => exact ih hid

end Site

/-- What an action comes to on a network. -/
structure Trace (α : Type) where
  value : α
  /-- the network that is left -/
  network : Network
  sent : List Sent
  marks : List Site.Mark

namespace Site

variable {α : Type} (site : Site) (t : Trace α)

/-- The surroundings that a trace leaves. -/
def after : Site :=
  { site.marked t.marks with network := t.network, sent := site.sent ++ t.sent }

@[simp] theorem after_network : (site.after t).network = t.network := rfl

/-- Marks may be joined to a trace in front of it and behind it. -/
theorem marked_after (marks : List Mark) : (site.marked marks).after t = site.after { t with marks := marks ++ t.marks } := by
  have hsent : (site.marked marks).sent = site.sent := by rw [marked_eq]
  simp only [after, marked_append, hsent]

theorem after_marked (marks : List Mark) : (site.after t).marked marks = site.after { t with marks := t.marks ++ marks } := by
  simp only [after, marked_with, marked_append]

/-- A trace leaves the journal alone and adds to what was sent and written. -/
theorem after_frame :
    site.after t = ⟨t.network, site.journal, (site.marked t.marks).context, site.sent ++ t.sent,
      site.records ++ written site.journal site.context t.marks⟩ := by
  rw [← marked_records, ← site.marked_journal t.marks]
  rfl

@[simp] theorem after_requestId : (site.after t).context.requestId = site.context.requestId :=
  site.marked_requestId t.marks

end Site

namespace Effect

variable {α β : Type}

/-- Whether an action has a trace on every network. -/
structure Traced (x : Effect α) : Prop where
  trace : ∀ n : Network, ∃ t : Trace α, ∀ site : Site, site.network = n → x site = (t.value, site.after t)

/-- Whether an action has a trace on every network with no marks but log calls, which are those of its value. -/
structure Notes (x : Effect α) (Calls : α → List Log.Entry → Prop) : Prop where
  trace : ∀ n : Network, ∃ (t : Trace α) (calls : List Log.Entry), t.marks = calls.map .entry ∧ Calls t.value calls ∧
    ∀ site : Site, site.network = n → x site = (t.value, site.after t)

variable {P : α → List Log.Entry → Prop} {R : β → List Log.Entry → Prop}

theorem Notes.traced {x : Effect α} (h : x.Notes P) : x.Traced := by
  constructor
  intro n
  obtain ⟨t, -, -, -, ht⟩ := h.trace n
  exact ⟨t, ht⟩

theorem notes_pure {v : α} (h : P v []) : (pure v : Effect α).Notes P := by
  constructor
  intro n
  refine ⟨⟨v, n, [], []⟩, [], rfl, h, ?_⟩
  rintro site rfl
  simp [pure_apply, Site.after]

theorem notes_note (level : Level) (logger event : String) (fields : Json.Members) :
    (Site.note level logger event fields).Notes fun _ calls => calls = [⟨level, logger, event, fields⟩] := by
  constructor
  intro n
  refine ⟨⟨(), n, [], [.entry ⟨level, logger, event, fields⟩]⟩, _, rfl, rfl, ?_⟩
  rintro site rfl
  rw [Site.after, List.append_nil]
  exact congrArg _ (site.marked_eq [.entry ⟨level, logger, event, fields⟩])

theorem notes_send (request : Request) (timeout : Binary64) :
    (Site.send request timeout).Notes fun _ calls => calls = [] := by
  constructor
  intro n
  refine ⟨⟨(n.ask request).1, (n.ask request).2, [⟨request, timeout⟩], []⟩, [], rfl, rfl, ?_⟩
  rintro site rfl
  rfl

/-- Traces are joined end to end. -/
theorem Notes.bind {x : Effect α} {f : α → Effect β} (hx : x.Notes P)
    (hf : ∀ v calls, P v calls → (f v).Notes fun w more => R w (calls ++ more)) : (x >>= f).Notes R := by
  constructor
  intro n
  obtain ⟨t, calls, hmarks, hcalls, ht⟩ := hx.trace n
  obtain ⟨u, more, hmore, hcalls', hu⟩ := (hf t.value calls hcalls).trace t.network
  refine ⟨⟨u.value, u.network, t.sent ++ u.sent, t.marks ++ u.marks⟩, calls ++ more, ?_, hcalls', fun site hsite => ?_⟩
  · rw [hmarks, hmore, List.map_append]
  · rw [bind_apply, ht site hsite, hu _ (site.after_network t)]
    simp only [Site.after, Site.marked_with, Site.marked_append, List.append_assoc]

theorem Notes.bind_pure {x : Effect α} {f : α → β} (hx : x.Notes P) (h : ∀ v calls, P v calls → R (f v) calls) :
    (x >>= fun v => pure (f v)).Notes R :=
  hx.bind fun v calls hv => notes_pure (by
    rw [List.append_nil]
    exact h v calls hv)

theorem Notes.traced_map {x : Effect α} {f : α → β} (hx : x.Notes P) : (x >>= fun v => pure (f v)).Traced :=
  (Notes.bind_pure (R := fun _ _ => True) hx fun _ _ _ => trivial).traced

theorem Notes.mono {Q : α → List Log.Entry → Prop} {x : Effect α} (hx : x.Notes P)
    (h : ∀ v calls, P v calls → Q v calls) : x.Notes Q := by
  constructor
  intro n
  obtain ⟨t, calls, hmarks, hcalls, ht⟩ := hx.trace n
  exact ⟨t, calls, hmarks, h _ _ hcalls, ht⟩

end Effect

end SignOn
