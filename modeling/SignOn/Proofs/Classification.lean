import SignOn.Proofs.Grammar
import SignOn.Proofs.Verdicts

/-!
What a request for a record comes to, by its reply. A failed exchange is told by its kind, a refusal by its status, and
a 200 tells a record exactly when its bytes denote a value of the shape that is asked for: an object whose known members
are texts where they are present, or a list of such objects.
-/

namespace SignOn

namespace Json

/-- Whether a value is an object in which each of some members is a text or missing. Other members do not count. -/
def IsRecord (names : List String) (v : Json) : Prop :=
  ∃ ms : Members, v = .obj ms ∧ ∀ name ∈ names, ∀ w, ms.get? name = some w → ∃ text : Text, w = .str text

/-- Whether a member that stands in for another one, where that is missing, is a text or missing too. -/
def StandsIn (wire plain : String) (v : Json) : Prop :=
  ∀ ms : Members, v = .obj ms → ms.get? wire = none → ∀ w, ms.get? plain = some w → ∃ text : Text, w = .str text

/-- Whether an object has a text for a member of two names, of which the one on the wire counts first. -/
def GivesEither (ms : Members) (wire plain : String) (text : Text) : Prop :=
  ms.get? wire = some (.str text) ∨ ms.get? wire = none ∧ GivesText ms plain text

theorem isRecord_obj_iff (names : List String) (ms : Members) :
    (obj ms).IsRecord names ↔ ∀ name ∈ names, ∀ w, ms.get? name = some w → ∃ text : Text, w = .str text := by
  constructor
  · intro h
    obtain ⟨_, hms, hall⟩ := h
    obtain rfl := Json.obj.inj hms
    exact hall
  · intro h
    exact ⟨ms, rfl, h⟩

/-- Of several members with one name, the last counts. -/
theorem isRecord_ofRows_iff (names : List String) (rows : Members) :
    (obj (Table.ofRows rows)).IsRecord names ↔
      ∀ name ∈ names, ∀ w, Table.last? rows name = some w → ∃ text : Text, w = .str text := by
  simp only [isRecord_obj_iff, Table.get?_ofRows]

theorem standsIn_obj_iff (wire plain : String) (ms : Members) :
    (obj ms).StandsIn wire plain ↔ (ms.get? wire = none → ∀ w, ms.get? plain = some w → ∃ text : Text, w = .str text) := by
  constructor
  · intro h
    exact h ms rfl
  · intro h _ hms
    obtain rfl := Json.obj.inj hms
    exact h

theorem exists_givesText_iff (ms : Members) (name : String) :
    (∃ text, GivesText ms name text) ↔ ∀ w, ms.get? name = some w → ∃ text : Text, w = .str text := by
  unfold GivesText
  cases ms.get? name with
  | none => simp
  | some w => simp

theorem exists_givesEither_iff (ms : Members) (wire plain : String) :
    (∃ text, GivesEither ms wire plain text) ↔
      (∀ w, ms.get? wire = some w → ∃ text : Text, w = .str text) ∧
        (ms.get? wire = none → ∀ w, ms.get? plain = some w → ∃ text : Text, w = .str text) := by
  unfold GivesEither
  cases ms.get? wire with
  | none => simp [exists_givesText_iff]
  | some w => simp

end Json

namespace Checked

variable {α β γ : Type}

theorem exists_map_iff (f : α → β) (x : Checked α) : (∃ b, f <$> x = .valid b) ↔ ∃ a, x = .valid a := by
  cases x <;> simp

theorem exists_seq_iff (f : α → β → γ) (x : Checked α) (y : Checked β) :
    (∃ c, f <$> x <*> y = .valid c) ↔ (∃ a, x = .valid a) ∧ ∃ b, y = .valid b := by
  cases x <;> cases y <;> simp

end Checked

namespace Field

variable {α : Type} {ms : Json.Members} {wire : String} (plain : String) (otherwise : α) (check : Json → Checked α)

theorem aliased_of_some {v : Json} (h : ms.get? wire = some v) :
    aliased ms [wire, plain] otherwise check = (check v).within wire := by
  simp [aliased, first?, h]

/-- Where the name on the wire is missing, the plain one stands in for it. -/
theorem aliased_of_none (h : ms.get? wire = none) :
    aliased ms [wire, plain] otherwise check = optional ms plain otherwise check := by
  unfold optional
  cases hp : ms.get? plain <;> simp [aliased, first?, h, hp]

theorem aliased_text_eq_valid_iff (s : Text) :
    aliased ms [wire, plain] ("" : Text) text = .valid s ↔ Json.GivesEither ms wire plain s := by
  unfold Json.GivesEither
  cases h : ms.get? wire with
  | none => simp [aliased_of_none plain ("" : Text) text h, optional_text_eq_valid_iff]
  | some v => simp [aliased_of_some plain ("" : Text) text h, text_eq_valid_iff]

/-- A list can be checked if each of its items can. -/
theorem exists_items_iff (first : Nat) (vs : List Json) :
    (∃ as, items check first vs = .valid as) ↔ ∀ v ∈ vs, ∃ a, check v = .valid a := by
  simp only [items_eq_valid_iff]
  induction vs with
  | nil => simp
  | cons v vs ih =>
    rw [List.forall_mem_cons, ← ih]
    constructor
    · intro h
      obtain ⟨as, has⟩ := h
      cases has with
      | cons ha has => exact ⟨⟨_, ha⟩, _, has⟩
    · intro h
      obtain ⟨⟨a, ha⟩, as, has⟩ := h
      exact ⟨a :: as, .cons ha has⟩

end Field

namespace Target

theorem tokenInfo_check_iff (v : Json) (info : TokenInfo) :
    tokenInfo.check v = .valid info ↔
      ∃ ms, v = .obj ms ∧ Json.GivesEither ms "mail" "email" info.email ∧ Json.GivesEither ms "dn" "user" info.user := by
  cases v with
  | obj ms =>
    simp only [tokenInfo, record, TokenInfo.ofMembers, Checked.seq_eq_valid_iff, Checked.map_eq_valid_iff,
      Field.aliased_text_eq_valid_iff]
    constructor
    · intro h
      obtain ⟨_, user, ⟨email, hemail, rfl⟩, huser, rfl⟩ := h
      exact ⟨ms, rfl, hemail, huser⟩
    · intro h
      obtain ⟨_, hms, hemail, huser⟩ := h
      obtain rfl := Json.obj.inj hms
      exact ⟨_, info.user, ⟨info.email, hemail, rfl⟩, huser, rfl⟩
  | _ => simp [tokenInfo, record, Checked.refuse]

/-- The values that a target accepts. A token's owner is read from members that others may stand in for. -/
inductive Accepts : {α : Type} → Target α → (Json → Prop) → Prop
  | tokenInfo :
      Accepts .tokenInfo fun v => v.IsRecord ["mail", "dn"] ∧ v.StandsIn "mail" "email" ∧ v.StandsIn "dn" "user"
  | directoryEntry : Accepts .directoryEntry (Json.IsRecord ["cn", "dn"])
  | groupInfo : Accepts .groupInfo (Json.IsRecord ["name"])
  | groups : Accepts .groups fun v => ∃ items, v = .arr items ∧ ∀ item ∈ items, item.IsRecord ["name"]

theorem exists_tokenInfo_iff (v : Json) :
    (∃ info, tokenInfo.check v = .valid info) ↔
      v.IsRecord ["mail", "dn"] ∧ v.StandsIn "mail" "email" ∧ v.StandsIn "dn" "user" := by
  cases v with
  | obj ms =>
    simp only [tokenInfo, record, TokenInfo.ofMembers, Checked.exists_seq_iff, Field.aliased_text_eq_valid_iff,
      Json.exists_givesEither_iff, Json.isRecord_obj_iff, Json.standsIn_obj_iff, List.forall_mem_cons]
    constructor
    · intro h
      obtain ⟨⟨hmail, hemail⟩, hdn, huser⟩ := h
      exact ⟨⟨hmail, hdn, by simp⟩, hemail, huser⟩
    · intro h
      obtain ⟨⟨hmail, hdn, -⟩, hemail, huser⟩ := h
      exact ⟨⟨hmail, hemail⟩, hdn, huser⟩
  | _ => simp [tokenInfo, record, Checked.refuse, Json.IsRecord]

theorem exists_directoryEntry_iff (v : Json) :
    (∃ entry, directoryEntry.check v = .valid entry) ↔ v.IsRecord ["cn", "dn"] := by
  cases v with
  | obj ms =>
    simp [directoryEntry, record, DirectoryEntry.ofMembers, Checked.exists_seq_iff, Field.optional_text_eq_valid_iff,
      Json.exists_givesText_iff, Json.isRecord_obj_iff]
  | _ => simp [directoryEntry, record, Checked.refuse, Json.IsRecord]

theorem exists_groupInfo_iff (v : Json) : (∃ group, groupInfo.check v = .valid group) ↔ v.IsRecord ["name"] := by
  cases v with
  | obj ms =>
    simp [groupInfo, record, GroupInfo.ofMembers, Checked.exists_map_iff, Field.optional_text_eq_valid_iff,
      Json.exists_givesText_iff, Json.isRecord_obj_iff]
  | _ => simp [groupInfo, record, Checked.refuse, Json.IsRecord]

theorem exists_groups_iff (v : Json) :
    (∃ groups, Target.groups.check v = .valid groups) ↔
      ∃ items, v = .arr items ∧ ∀ item ∈ items, item.IsRecord ["name"] := by
  cases v with
  | arr items =>
    have hitems := Field.exists_items_iff groupInfo.check 0 items
    simp only [exists_groupInfo_iff] at hitems
    constructor
    · intro h
      exact ⟨items, rfl, hitems.1 h⟩
    · intro h
      obtain ⟨_, hv, hall⟩ := h
      obtain rfl := Json.arr.inj hv
      exact hitems.2 hall
  | _ => simp [Target.groups, list, Checked.refuse]

variable {α : Type} {target : Target α} {Shape : Json → Prop}

theorem Accepts.check_iff (h : Accepts target Shape) (v : Json) : (∃ a, target.check v = .valid a) ↔ Shape v := by
  cases h with
  | tokenInfo => exact exists_tokenInfo_iff v
  | directoryEntry => exact exists_directoryEntry_iff v
  | groupInfo => exact exists_groupInfo_iff v
  | groups => exact exists_groups_iff v

end Target

theorem Reply.tells_answered_iff {α : Type} (r : Response) (target : Target α) (a : α) :
    (answered r).Tells target a ↔ r.status = 200 ∧ Exchange.readBody target r.body = .ok a := by
  constructor
  · intro h
    obtain ⟨_, heq, hs, hb⟩ := h
    cases heq
    exact ⟨hs, hb⟩
  · intro h
    exact ⟨r, rfl, h⟩

namespace Exchange

/-- The failure of a request that ran out of time. -/
def timedOut (service url : String) : Failure where
  kind := .cancelled
  code := "CANCELLED"
  message := service ++ ": request to " ++ url ++ " timed out"
  details := [("url", .str url)]

/-- The failure of a request that was not answered. -/
def unanswered (service url words : String) : Failure where
  kind := .remoteUnavailable
  code := "REMOTE_UNAVAILABLE"
  message := service ++ ": " ++ words
  details := [("url", .str url)]

/-- The failure of a request that was answered with another status than 200. -/
def refused (service url : String) (status : Nat) (text : String) : Failure where
  kind := .remoteUnavailable
  code := "REMOTE_UNAVAILABLE"
  message := service ++ ": " ++ s!"got {status} {text}"
  details := [("url", .str url), ("status_code", .int status)]

/-- The failure of a request whose answer is not what was asked for. -/
def malformed (service url : String) (told : Json) : Failure where
  kind := .undecodable
  code := "DECODE_ERROR"
  message := service ++ ": " ++ ("error unmarshalling response from " ++ url)
  details := [("url", .str url), ("error", told)]

variable {α : Type} {target : Target α} {Shape : Json → Prop}

theorem exists_readBody_iff (ht : target.Accepts Shape) {r : Response} (hd : ¬r.NestsTooDeep) :
    (∃ a, readBody target r.body = .ok a) ↔ ∃ v, Json.Denotes r.body v ∧ Shape v := by
  have hread : ∀ v, Json.readBytes r.body = .ok v ↔ Json.Denotes r.body v := by
    intro v
    apply Json.readBytes_eq_ok_iff
    intro text object hdeep
    exact hd ⟨text, object, hdeep⟩
  simp only [readBody_eq_ok_iff, hread]
  constructor
  · intro h
    obtain ⟨a, v, hv, ha⟩ := h
    exact ⟨v, hv, (ht.check_iff v).1 ⟨a, ha⟩⟩
  · intro h
    obtain ⟨v, hv, hshape⟩ := h
    obtain ⟨a, ha⟩ := (ht.check_iff v).2 hshape
    exact ⟨a, v, hv, ha⟩

variable (target) (service url : String)

theorem judge_failed (fault : Fault) (message : String) :
    (fault.isTimeout = true →
        (judge target service url (.failed fault message)).2 = .error (.failure (timedOut service url))) ∧
      (fault.isTimeout = false →
        (judge target service url (.failed fault message)).2 =
          .error (.failure (unanswered service url (if message = "" then fault.name else message)))) := by
  constructor
  · intro hf
    rw [judge, if_pos hf]
    rfl
  · intro hf
    rw [judge, if_neg (by simp [hf])]
    rfl

theorem judge_refused {r : Response} (hs : r.status ≠ 200) (hl : ¬r.IsUnshown) :
    ∃ text, r.text = .ok text ∧
      (judge target service url (.answered r)).2 = .error (.failure (refused service url r.status text)) := by
  have hj := judge_judged target service url (.answered r)
  generalize (judge target service url (.answered r)).2 = result at hj
  cases hj with
  | refused _ _ htext => exact ⟨_, htext, rfl⟩
  | unshown _ hl' => exact absurd hl' hl
  | told hs' | tooDeep hs' | misfit hs' => exact absurd hs' hs

/-- A 200 tells what is asked for, or is malformed. -/
theorem judge_told_or_malformed {r : Response} (hs : r.status = 200) (hd : ¬r.NestsTooDeep) :
    (∃ a, (judge target service url (.answered r)).2 = .ok a) ∨
      ∃ told, (judge target service url (.answered r)).2 = .error (.failure (malformed service url told)) := by
  have hj := judge_judged target service url (.answered r)
  generalize (judge target service url (.answered r)).2 = result at hj
  cases hj with
  | told => exact .inl ⟨_, rfl⟩
  | misfit => exact .inr ⟨_, rfl⟩
  | tooDeep _ hdeep => exact absurd hdeep hd
  | unshown hs' | refused hs' => exact absurd hs hs'

variable {target}

theorem exists_judge_iff (ht : target.Accepts Shape) {r : Response} (hs : r.status = 200) (hd : ¬r.NestsTooDeep) :
    (∃ a, (judge target service url (.answered r)).2 = .ok a) ↔ ∃ v, Json.Denotes r.body v ∧ Shape v := by
  simp only [judge_eq_ok_iff, Reply.tells_answered_iff, hs, true_and]
  exact exists_readBody_iff ht hd

/-- What a request for a record comes to. It is sent once. A request that ran out of time is cancelled; any other failed
exchange makes the service unavailable, in the words of the fault or by its name; what is no fault of an exchange is
passed on. A refusal that is received makes the service unavailable whatever its body, as long as that declares no
charset. A 200 tells a record exactly when its bytes denote a value that the target accepts, and is malformed otherwise,
unless it nests too deep. In an object that is read the last of several members with one name counts. -/
theorem fetch_classified (ht : target.Accepts Shape) (request : Request) (timeout : Binary64) (site : Site) :
    let o := fetch request target service timeout site
    let reply := (site.network.reply request).1
    let url := request.url.text
    o.2.sent = site.sent ++ [⟨request, timeout⟩] ∧ o.2.network = (site.network.reply request).2 ∧
      (∀ fault message, reply = .failed fault message →
        (fault.isTimeout = true → o.1 = .error (.failure (timedOut service url))) ∧
        (fault.isTimeout = false →
          o.1 = .error (.failure (unanswered service url (if message = "" then fault.name else message))))) ∧
      (∀ b, reply = .broken b → o.1 = .error (.breakdown b)) ∧
      (∀ r, reply = .answered r → r.header? "content-encoding" = none → r.DeclaresNoCharset → request.Receives r →
        (r.status ≠ 200 → ∃ text, r.text = .ok text ∧ o.1 = .error (.failure (refused service url r.status text))) ∧
        (r.status = 200 → ¬r.NestsTooDeep →
          ((∃ a, o.1 = .ok a) ↔ ∃ v, Json.Denotes r.body v ∧ Shape v) ∧
          ((∃ a, o.1 = .ok a) ∨ ∃ told, o.1 = .error (.failure (malformed service url told))))) ∧
      ∀ names rows, (Json.obj (Table.ofRows rows)).IsRecord names ↔
        ∀ name ∈ names, ∀ w, Table.last? rows name = some w → ∃ text : Text, w = .str text := by
  intro o reply url
  have hresult : o = _ := fetch_apply request target service timeout site
  have hask : (site.network.ask request).1 = request.receive reply := rfl
  refine ⟨?_, ?_, ?_, ?_, ?_, Json.isRecord_ofRows_iff⟩
  · rw [hresult]
    simp
  · rw [hresult, Site.noted_network, Site.asked_network]
    rfl
  · intro fault message hreply
    rw [hresult, hask, hreply]
    exact judge_failed target service url fault message
  · intro b hreply
    rw [hresult, hask, hreply]
    rfl
  · intro r hreply _ hundeclared hreceives
    rw [hresult, hask, hreply, Request.receive_answered hreceives]
    constructor
    · intro hs
      exact judge_refused target service url hs (Response.not_isUnshown_of_declaresNoCharset hundeclared)
    · intro hs hd
      exact ⟨exists_judge_iff service url ht hs hd, judge_told_or_malformed target service url hs hd⟩

theorem denotes_of_readBytes {r : Response} {v : Json} (h : Json.readBytes r.body = .ok v) :
    ¬r.NestsTooDeep ∧ Json.Denotes r.body v := by
  have hd : ¬r.NestsTooDeep := by
    intro hdeep
    obtain ⟨text, object, hdeep⟩ := hdeep
    exact absurd (h.symm.trans hdeep) (by simp)
  refine ⟨hd, ?_⟩
  rwa [← Json.readBytes_eq_ok_iff]
  intro text object hdeep
  exact hd ⟨text, object, hdeep⟩

/-- A group that is named twice is told, as only its last name counts. -/
theorem fetch_classified_of_two_names :
    let request : Request := ⟨"GET", ⟨"http", "", "id.test", none, "/user/uid=a/groups", none, none⟩, []⟩
    let listed := Reply.told "[\x7b\x22name\x22: 5, \x22name\x22: \x22ops\x22\x7d]"
    let o := fetch request .groups "directory" defaultTimeout { network := { script := [listed] } }
    o.2.sent = [⟨request, defaultTimeout⟩] ∧ ∃ groups, o.1 = .ok groups := by
  intro request listed o
  have hclassified := fetch_classified "directory" .groups request defaultTimeout { network := { script := [listed] } }
  rw [show fetch request .groups "directory" defaultTimeout { network := { script := [listed] } } = o from rfl]
    at hclassified
  clear_value o
  obtain ⟨hsent, -, -, -, hanswered, hlast⟩ := hclassified
  refine ⟨hsent, ?_⟩
  let rows : Json.Members := [("name", .int 5), ("name", .str "ops")]
  let last : Json.Members := [("name", .str "ops")]
  have hrows : Table.ofRows rows = last := by decide
  have hrecord : (Json.obj last).IsRecord ["name"] := by
    rw [← hrows, hlast]
    simp [rows, Table.last?, Table.get?]
  have hread : Json.readBytes (Utf8.encode "[\x7b\x22name\x22: 5, \x22name\x22: \x22ops\x22\x7d]".toList) =
      .ok (.arr [.obj [("name", .str "ops")]]) := by decide +kernel
  obtain ⟨hdeep, hdenotes⟩ := denotes_of_readBytes (r := ⟨200, [], _⟩) hread
  have hundeclared : Response.DeclaresNoCharset ⟨200, [], Utf8.encode
      "[\x7b\x22name\x22: 5, \x22name\x22: \x22ops\x22\x7d]".toList⟩ := fun text ht => by cases ht
  have hreceives : request.Receives ⟨200, [], Utf8.encode
      "[\x7b\x22name\x22: 5, \x22name\x22: \x22ops\x22\x7d]".toList⟩ := by
    refine ⟨by decide +kernel, fun location hl => ?_⟩
    rw [Response.location?_of_ok rfl] at hl
    cases hl
  obtain ⟨htold, -⟩ := (hanswered _ rfl rfl hundeclared hreceives).2 rfl hdeep
  exact htold.2 ⟨_, hdenotes, _, rfl, by simpa using hrecord⟩

/-- A number among the members that do not count is refused where it stands in for a missing email. -/
theorem fetch_of_unlisted_number :
    let request : Request := ⟨"GET", ⟨"https", "", "sso.test", none, "/whoami", none, none⟩, []⟩
    let v : Json := .obj [("email", .int 5)]
    let site : Site := { network := { script := [.told "\x7b\x22email\x22: 5\x7d"] } }
    Json.Denotes (Utf8.encode "\x7b\x22email\x22: 5\x7d".toList) v ∧ v.IsRecord ["mail", "dn"] ∧
      (fetch request .tokenInfo "tokeninfo" defaultTimeout site).1 =
        .error (.failure (malformed "tokeninfo" "https://sso.test/whoami" (Violation.summary [⟨["email"], .notText⟩]))) := by
  intro request v site
  have hread : Json.readBytes (Utf8.encode "\x7b\x22email\x22: 5\x7d".toList) = .ok v := by decide +kernel
  refine ⟨(denotes_of_readBytes (r := ⟨200, [], _⟩) hread).2, ⟨_, rfl, ?_⟩, by decide +kernel⟩
  simp [Table.get?]

end Exchange

end SignOn
