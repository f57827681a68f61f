import SignOn.Proofs.Surroundings

/-!
What replies come to. A reply tells a record when it is a 200 whose body has the shape of the record. All that goes
wrong with a reply is a failure of the access layer, with two exceptions: a body that is to be shown but has no text in
the charset it declares, and a body that nests too deep.
-/

namespace SignOn

/-- Whether a result is an error that the access layer does not report itself. -/
def Breaks {α : Type} (result : Except Trouble α) : Prop :=
  ∃ trouble, result = .error trouble ∧ trouble.isFailure = false

section

variable {α β : Type}

@[simp] theorem breaks_ok (a : α) : ¬Breaks (.ok a : Except Trouble α) := by
  rintro ⟨trouble, h, -⟩
  cases h

@[simp] theorem breaks_error (trouble : Trouble) :
    Breaks (.error trouble : Except Trouble α) ↔ trouble.isFailure = false :=
  ⟨fun ⟨_, h, ht⟩ => by cases h; exact ht, fun h => ⟨trouble, rfl, h⟩⟩

@[simp] theorem breaks_map (f : α → β) (result : Except Trouble α) : Breaks (result.map f) ↔ Breaks result := by
  cases result with
  | ok a => exact iff_of_false (breaks_ok (f a)) (breaks_ok a)
  | error trouble => exact (breaks_error trouble).trans (breaks_error trouble).symm

@[simp] theorem isFailure_failure (f : Failure) : (Trouble.failure f).isFailure = true := rfl

@[simp] theorem isFailure_broken (kind : Breakdown.Kind) (message : String) :
    (Trouble.broken kind message).isFailure = false := rfl

@[simp] theorem isFailure_breakdown (b : Breakdown) : (Trouble.breakdown b).isFailure = false := rfl

end

theorem Trouble.exists_ofMediaFault (fault : MediaType.Fault) : ∃ b, ofMediaFault fault = .breakdown b := by
  rcases fault with ⟨_ | _⟩ | _ | _ <;> exact ⟨_, rfl⟩

theorem Trouble.exists_ofRefusal (refusal : Charset.Refusal) : ∃ b, ofRefusal refusal = .breakdown b := by
  cases refusal <;> exact ⟨_, rfl⟩

/-- Whether a charset has no text for some bytes. -/
def Charset.Refuses : Charset → List UInt8 → Prop
  | .utf16 none, bs => 2 ≤ bs.length ∧ (∀ rest, bs ≠ 0xFF :: 0xFE :: rest) ∧ ∀ rest, bs ≠ 0xFE :: 0xFF :: rest
  | .utf32 none, bs =>
    4 ≤ bs.length ∧ (∀ rest, bs ≠ 0xFF :: 0xFE :: 0x00 :: 0x00 :: rest) ∧
      ∀ rest, bs ≠ 0x00 :: 0x00 :: 0xFE :: 0xFF :: rest
  | .punycode, bs => ∃ b ∈ (Punycode.split bs).2, 0x80 ≤ b
  | .transfer, _ | .rotation, _ | .hostNames, _ | .undefined, _ => True
  | _, _ => False

theorem Punycode.isSome_refusal?_iff (bs : List UInt8) :
    (refusal? bs).isSome = true ↔ ∃ b ∈ (split bs).2, 0x80 ≤ b := by
  simp [refusal?]

/-- A charset refuses bytes for want of a mark, for what stands behind a hyphen, or because it is none for bytes. -/
theorem Charset.decode_error_iff (c : Charset) (bs : List UInt8) :
    (∃ refusal, c.decode bs = .error refusal) ↔ c.Refuses bs := by
  fun_cases Charset.decode c bs with
  | case10 bs _ _ hshort => exact iff_of_false (by simp) fun h => absurd h.1 (by omega)
  | case15 bs _ _ hshort => exact iff_of_false (by simp) fun h => absurd h.1 (by omega)
  | case11 bs hlittle hbig hlong => exact iff_of_true ⟨_, rfl⟩ ⟨by omega, hlittle, hbig⟩
  | case16 bs hlittle hbig hlong => exact iff_of_true ⟨_, rfl⟩ ⟨by omega, hlittle, hbig⟩
  | case17 bs u h => exact iff_of_true ⟨_, rfl⟩ ((Punycode.isSome_refusal?_iff bs).1 (by simp [h]))
  | case18 bs h =>
    refine iff_of_false (by simp) fun hr => ?_
    simpa [h] using (Punycode.isSome_refusal?_iff bs).2 hr
  | _ => simp [Refuses]

namespace Response

variable (r : Response)

/-- Whether the body cannot be shown as a text: its media type has no reading, or its charset refuses it. -/
def IsUnshown : Prop :=
  r.body ≠ [] ∧
    ((∃ fault, MediaType.charset (r.header? "content-type") = .error fault) ∨
      ∃ charset, MediaType.charset (r.header? "content-type") = .ok charset ∧ charset.Refuses r.body)

/-- Whether the body nests deeper than a reader goes. -/
def NestsTooDeep : Prop :=
  ∃ text object, Json.readBytes r.body = .error (.source text (.tooDeep object))

/-- A body that cannot be shown is a breakdown; any other has a text. -/
theorem text_cases :
    (r.IsUnshown ∧ ∃ b, r.text = .error (.breakdown b)) ∨ (¬r.IsUnshown ∧ ∃ text, r.text = .ok text) := by
  by_cases hbody : r.body = []
  · refine .inr ⟨fun h => h.1 hbody, "", ?_⟩
    rw [text, if_pos hbody]
    rfl
  · rw [text, if_neg hbody, IsUnshown]
    cases hc : MediaType.charset (r.header? "content-type") with
    | error fault =>
      refine .inl ⟨⟨hbody, .inl ⟨fault, rfl⟩⟩, ?_⟩
      obtain ⟨b, hb⟩ := Trouble.exists_ofMediaFault fault
      exact ⟨b, congrArg Except.error hb⟩
    | ok charset =>
      have h := Charset.decode_error_iff charset r.body
      cases hd : charset.decode r.body with
      | error refusal =>
        refine .inl ⟨⟨hbody, .inr ⟨charset, rfl, h.1 ⟨refusal, hd⟩⟩⟩, ?_⟩
        obtain ⟨b, hb⟩ := Trouble.exists_ofRefusal refusal
        refine ⟨b, ?_⟩
        show (charset.decode r.body).mapError Trouble.ofRefusal >>= _ = _
        rw [hd, ← hb]
        rfl
      | ok cs =>
        refine .inr ⟨?_, String.ofList cs, ?_⟩
        · rintro ⟨-, ⟨fault, hf⟩ | ⟨charset', hc', hr⟩⟩
          · cases hf
          · cases hc'
            obtain ⟨refusal, hr⟩ := h.2 hr
            exact absurd (hd.symm.trans hr) (by simp)
        · show (charset.decode r.body).mapError Trouble.ofRefusal >>= _ = _
          rw [hd]
          rfl

/-- A 200 leads nowhere. -/
theorem location?_of_ok {r : Response} (hs : r.status = 200) : r.location? = none := by
  simp [location?, hs]

theorem eq_breakdown_of_text {r : Response} {trouble : Trouble} (h : r.text = .error trouble) :
    ∃ b, trouble = .breakdown b := by
  rcases r.text_cases with ⟨-, b, hb⟩ | ⟨-, text, ht⟩
  · exact ⟨b, Except.error.inj (h.symm.trans hb)⟩
  · exact absurd (h.symm.trans ht) (by simp)

end Response

namespace Reply

/-- A 200 with a text for its body. -/
def told (body : String) : Reply :=
  .answered ⟨200, [], Utf8.encode body.toList⟩

/-- Whether a reply is one that the access layer knows: an answer or a failed exchange. -/
def IsKnown : Reply → Prop
  | .broken _ => False
  | _ => True

/-- Whether a reply tells a record: it is a 200, and its body has the shape of the record. -/
def Tells {α : Type} (reply : Reply) (target : Target α) (a : α) : Prop :=
  ∃ r, reply = .answered r ∧ r.status = 200 ∧ Exchange.readBody target r.body = .ok a

theorem Tells.unique {α : Type} {reply : Reply} {target : Target α} {a b : α} (ha : reply.Tells target a)
    (hb : reply.Tells target b) : a = b := by
  obtain ⟨r, rfl, -, hr⟩ := ha
  obtain ⟨_, h, -, hr'⟩ := hb
  cases h
  exact Except.ok.inj (hr.symm.trans hr')

/-- Whether a reply to a request for a record brings the reader down: it is none that the access layer knows, a refusal
that cannot be shown, or a 200 that nests too deep. -/
def Derails : Reply → Prop
  | .broken _ => True
  | .failed _ _ => False
  | .answered r => r.status ≠ 200 ∧ r.IsUnshown ∨ r.status = 200 ∧ r.NestsTooDeep

/-- Whether a reply to a token check brings the reader down: it is none that the access layer knows, or a refusal that
cannot be shown. -/
def DerailsToken : Reply → Prop
  | .broken _ => True
  | .failed _ _ => False
  | .answered r => r.status ≠ 200 ∧ r.IsUnshown

/-- A reply as it is received where it can be: an answer that leads to a place that cannot be read is a failed exchange. -/
def received : Reply → Reply
  | .answered r =>
    match r.location?.map Url.read with
    | some (.error fault) => .failed .remoteProtocol s!"Invalid URL in location header: {fault.message}."
    | _ => .answered r
  | reply => reply

/-- A reply that is not received as it came is no 200. -/
theorem received_cases (reply : Reply) :
    reply.received = reply ∨
      ∃ r message, reply = .answered r ∧ r.status ≠ 200 ∧ reply.received = .failed .remoteProtocol message := by
  cases reply with
  | failed | broken => exact .inl rfl
  | answered r =>
    cases hf : r.location?.map Url.read with
    | none => exact .inl (by simp [received, hf])
    | some place =>
      cases place with
      | ok url => exact .inl (by simp [received, hf])
      | error fault =>
        refine .inr ⟨r, _, rfl, fun hs => ?_, by simp only [received, hf]; rfl⟩
        simp [Response.location?_of_ok hs] at hf

end Reply

namespace Request

variable (request : Request)

/-- An answer that leads nowhere is received as it is, if the address has a type. -/
theorem receive_of_typed {request : Request} {r : Response} (ht : Url.untyped? request.url.text = none)
    (hl : r.location? = none) : request.receive (.answered r) = .answered r := by
  simp [receive, ht, hl]

theorem receive_told {request : Request} (ht : Url.untyped? request.url.text = none) (body : String) :
    request.receive (.told body) = .told body :=
  receive_of_typed ht (Response.location?_of_ok rfl)

/-- Whether an answer to a request is received as it is: the address has a type, and where the answer leads elsewhere,
there is such a place. -/
def Receives (r : Response) : Prop :=
  Url.untyped? request.url.text = none ∧
    ∀ location, r.location? = some location →
      ∃ url target, Url.read location = .ok url ∧ request.target url = .ok target

theorem receive_answered {request : Request} {r : Response} (h : request.Receives r) :
    request.receive (.answered r) = .answered r := by
  obtain ⟨ht, hl⟩ := h
  cases hr : r.location? with
  | none => exact receive_of_typed ht hr
  | some location =>
    obtain ⟨url, target, hread, htarget⟩ := hl location hr
    simp [receive, ht, hr, lead, hread, htarget]

/-- Whether a client can receive a reply to a request: no error comes of it that was none before. -/
structure CanReceive (reply : Reply) : Prop where
  isKnown : reply.IsKnown → (request.receive reply).IsKnown

/-- An answer that leads nowhere can be received, if the address has a type. -/
theorem canReceive_of_typed {request : Request} {r : Response} (ht : Url.untyped? request.url.text = none)
    (hl : r.location? = none) : request.CanReceive (.answered r) := by
  constructor
  intro _
  rw [receive_of_typed ht hl]
  trivial

theorem canReceive_told {request : Request} (ht : Url.untyped? request.url.text = none) (body : String) :
    request.CanReceive (.told body) :=
  canReceive_of_typed ht (Response.location?_of_ok rfl)

/-- The client makes the same of a reply for all requests for which it can receive it. -/
theorem CanReceive.receive_eq {request : Request} {reply : Reply} (h : request.CanReceive reply) :
    request.receive reply = reply.received := by
  cases reply with
  | failed | broken => rfl
  | answered r =>
    have hknown := h.isKnown trivial
    cases ht : Url.untyped? request.url.text with
    | some shown => simp [receive, ht, Reply.IsKnown] at hknown
    | none =>
      cases hl : r.location? with
      | none => simp [receive, ht, hl, Reply.received]
      | some location =>
        simp only [receive, ht, hl, Option.elim_some] at hknown ⊢
        unfold lead at hknown ⊢
        cases hread : Url.read location with
        | error fault => simp [hread, hl, Reply.received]
        | ok url =>
          simp only [hread] at hknown ⊢
          cases htarget : request.target url with
          | error fault => simp [htarget, Reply.IsKnown] at hknown
          | ok target => simp [hread, hl, Reply.received]

end Request

namespace Exchange

variable {α : Type} (target : Target α)

theorem tooDeep_of_readBody {r : Response} {misfit : Misfit} {words : String}
    (h : readBody target r.body = .error misfit) (hd : misfit.tooDeep? = some words) : r.NestsTooDeep := by
  unfold readBody at h
  split at h
  next g hg =>
    cases h
    unfold Misfit.tooDeep? at hd
    split at hd
    next text object hm =>
      cases hm
      exact ⟨text, object, hg⟩
    next => cases hd
  next =>
    split at h
    · cases h
    · cases h
      cases hd

/-- A body that nests too deep has no record, whichever is asked for. -/
theorem readBody_of_tooDeep {r : Response} (h : r.NestsTooDeep) :
    ∃ misfit words, readBody target r.body = .error misfit ∧ misfit.tooDeep? = some words := by
  obtain ⟨text, object, h⟩ := h
  exact ⟨.garbled (.source text (.tooDeep object)), _, by simp only [readBody, h], rfl⟩

/-- What a reply to a request for a record comes to. -/
inductive Judged (service url : String) : Reply → Except Trouble α → Prop
  | broken (b : Breakdown) : Judged service url (.broken b) (.error (.breakdown b))
  | timedOut {fault : Fault} (message : String) (hf : fault.isTimeout = true) :
      Judged service url (.failed fault message)
        (.error (.failure (.cancelled (service ++ ": request to " ++ url ++ " timed out") [("url", .str url)])))
  | failed {fault : Fault} (message : String) (hf : fault.isTimeout = false) :
      Judged service url (.failed fault message)
        (.error (.failure
          (.remoteUnavailable service (if message = "" then fault.name else message) [("url", .str url)])))
  | unshown {r : Response} {b : Breakdown} (hs : r.status ≠ 200) (hl : r.IsUnshown) :
      Judged service url (.answered r) (.error (.breakdown b))
  | refused {r : Response} {text : String} (hs : r.status ≠ 200) (hl : ¬r.IsUnshown) (ht : r.text = .ok text) :
      Judged service url (.answered r)
        (.error (.failure (.remoteUnavailable service s!"got {r.status} {text}"
          [("url", .str url), ("status_code", .int r.status)])))
  | told {r : Response} {a : α} (hs : r.status = 200) (hb : readBody target r.body = .ok a) :
      Judged service url (.answered r) (.ok a)
  | tooDeep {r : Response} {words : String} (hs : r.status = 200) (hd : r.NestsTooDeep) :
      Judged service url (.answered r) (.error (.broken .tooDeep words))
  | misfit {r : Response} {misfit : Misfit} (hs : r.status = 200) (hd : ¬r.NestsTooDeep)
      (hb : readBody target r.body = .error misfit) :
      Judged service url (.answered r)
        (.error (.failure (.undecodable service ("error unmarshalling response from " ++ url)
          [("url", .str url), ("error", misfit.told)])))

variable (service url : String) (reply : Reply)

theorem judge_judged : Judged target service url reply (judge target service url reply).2 := by
  cases reply with
  | broken b => exact .broken b
  | failed fault message =>
    cases hf : fault.isTimeout with
    | true => simpa [judge, hf] using Judged.timedOut message hf
    | false => simpa [judge, hf] using Judged.failed message hf
  | answered r =>
    by_cases hs : r.status = 200
    · cases hb : readBody target r.body with
      | ok a => simpa [judge, hs, hb] using Judged.told hs hb
      | error misfit =>
        cases hm : misfit.tooDeep? with
        | some words => simpa [judge, hs, hb, hm] using Judged.tooDeep hs (tooDeep_of_readBody target hb hm)
        | none =>
          have hd : ¬r.NestsTooDeep := by
            intro h
            obtain ⟨_, _, h, hw⟩ := readBody_of_tooDeep target h
            simp_all
          simpa [judge, hs, hb, hm] using Judged.misfit hs hd hb
    · rcases r.text_cases with ⟨hl, b, ht⟩ | ⟨hl, text, ht⟩
      · simpa [judge, hs, ht] using Judged.unshown hs hl
      · simpa [judge, hs, ht] using Judged.refused hs hl ht

theorem judge_eq_ok_iff (a : α) : (judge target service url reply).2 = .ok a ↔ reply.Tells target a := by
  constructor
  · intro h
    have hj := judge_judged target service url reply
    rw [h] at hj
    cases hj with
    | told hs hb => exact ⟨_, rfl, hs, hb⟩
  · rintro ⟨r, rfl, hs, hb⟩
    simp [judge, hs, hb]

/-- A judged reply is an error that nobody is prepared for exactly when it derails. -/
theorem breaks_judge_iff : Breaks (judge target service url reply).2 ↔ reply.Derails := by
  have hj := judge_judged target service url reply
  generalize (judge target service url reply).2 = result at hj
  cases hj with
  | broken | timedOut | failed => simp [Reply.Derails]
  | unshown hs hl | refused hs hl => simp [Reply.Derails, hs, hl]
  | told hs hb =>
    have hd : ¬Response.NestsTooDeep _ := fun h => by
      obtain ⟨_, _, h, -⟩ := readBody_of_tooDeep target h
      exact absurd (hb.symm.trans h) (by simp)
    simp [Reply.Derails, hs, hd]
  | tooDeep hs hd | misfit hs hd => simp [Reply.Derails, hs, hd]

/-- What a reply to a token check comes to. -/
inductive JudgedToken (endpoint : String) : Reply → Except Trouble Bool → Prop
  | broken (b : Breakdown) : JudgedToken endpoint (.broken b) (.error (.breakdown b))
  | timedOut {fault : Fault} (message : String) (hf : fault.isTimeout = true) :
      JudgedToken endpoint (.failed fault message)
        (.error (.failure
          (.cancelled ("token validation against " ++ endpoint ++ " timed out") [("url", .str endpoint)])))
  | failed {fault : Fault} (message : String) (hf : fault.isTimeout = false) :
      JudgedToken endpoint (.failed fault message) (.ok false)
  | accepted {r : Response} (hs : r.status = 200) : JudgedToken endpoint (.answered r) (.ok true)
  | unshown {r : Response} {b : Breakdown} (hs : r.status ≠ 200) (hl : r.IsUnshown) :
      JudgedToken endpoint (.answered r) (.error (.breakdown b))
  | refused {r : Response} (hs : r.status ≠ 200) (hl : ¬r.IsUnshown) : JudgedToken endpoint (.answered r) (.ok false)

theorem judgeToken_judged (endpoint : String) : JudgedToken endpoint reply (judgeToken endpoint reply).2 := by
  cases reply with
  | broken b => exact .broken b
  | failed fault message =>
    cases hf : fault.isTimeout with
    | true => simpa [judgeToken, hf] using JudgedToken.timedOut message hf
    | false => simpa [judgeToken, hf] using JudgedToken.failed message hf
  | answered r =>
    by_cases hs : r.status = 200
    · simpa [judgeToken, hs] using JudgedToken.accepted hs
    · rcases r.text_cases with ⟨hl, b, ht⟩ | ⟨hl, text, ht⟩
      · simpa [judgeToken, hs, ht] using JudgedToken.unshown hs hl
      · simpa [judgeToken, hs, ht] using JudgedToken.refused hs hl

/-- A token check ends in an error that nobody is prepared for exactly when its reply derails. -/
theorem breaks_judgeToken_iff (endpoint : String) : Breaks (judgeToken endpoint reply).2 ↔ reply.DerailsToken := by
  have hj := judgeToken_judged reply endpoint
  generalize (judgeToken endpoint reply).2 = result at hj
  cases hj with
  | broken | timedOut | failed => simp [Reply.DerailsToken]
  | accepted hs => simp [Reply.DerailsToken, hs]
  | unshown hs hl | refused hs hl => simp [Reply.DerailsToken, hs, hl]

/-- The only failure that a token check reports is that it was given up. -/
theorem kind_of_judgeToken {endpoint : String} {reply : Reply} {f : Failure}
    (h : (judgeToken endpoint reply).2 = .error (.failure f)) : f.kind = .cancelled := by
  have hj := judgeToken_judged reply endpoint
  rw [h] at hj
  cases hj
  rfl

end Exchange

end SignOn
