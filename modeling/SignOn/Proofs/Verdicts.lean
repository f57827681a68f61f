import Mathlib.Data.List.Forall2
import SignOn.Proofs.Membership

/-!
The verdict of a group check, read off the bytes of the two answers. What an answer has to hold is said of its JSON
value alone; whatever else comes back denies, save that a request that ran out of time is told to the caller.
-/

namespace SignOn

/-- Whether an object has a text for a member that may be missing; a missing one counts as the empty text. -/
def Json.GivesText (ms : Json.Members) (name : String) (text : Text) : Prop :=
  ms.get? name = some (.str text) ∨ ms.get? name = none ∧ text = ""

/-- Whether a value is an entry for a group of some name. -/
def Json.NamesGroup (v : Json) (name : Text) : Prop :=
  ∃ ms, v = .obj ms ∧ GivesText ms "name" name

theorem Json.NamesGroup.unique {v : Json} {name name' : Text} (h : v.NamesGroup name) (h' : v.NamesGroup name') :
    name = name' := by
  obtain ⟨ms, rfl, hname⟩ := h
  obtain ⟨_, heq, hname'⟩ := h'
  obtain rfl := Json.obj.inj heq
  rcases hname with hname | ⟨hname, rfl⟩
  · rcases hname' with hname' | ⟨hname', -⟩
    · exact Json.str.inj (Option.some.inj (hname.symm.trans hname'))
    · exact absurd (hname.symm.trans hname') (by simp)
  · rcases hname' with hname' | ⟨-, rfl⟩
    · exact absurd (hname.symm.trans hname') (by simp)
    · rfl

namespace Response

/-- Whether an answer declares no charset. -/
def DeclaresNoCharset (r : Response) : Prop :=
  ∀ text, r.header? "content-type" = some text → MediaType.declared? text.toList = .ok none

/-- Without a declared charset a body can always be shown. -/
theorem not_isUnshown_of_declaresNoCharset {r : Response} (h : r.DeclaresNoCharset) : ¬r.IsUnshown := by
  have hcharset : MediaType.charset (r.header? "content-type") = .ok .utf8 := by
    unfold MediaType.charset
    cases ht : r.header? "content-type" with
    | none => rfl
    | some text =>
      rw [Option.elim_some, h text ht]
      rfl
  rw [IsUnshown, hcharset]
  rintro ⟨-, ⟨fault, hf⟩ | ⟨charset, hc, hr⟩⟩
  · cases hf
  · obtain rfl := Except.ok.inj hc
    exact hr

end Response

namespace Reply

/-- Whether a reply is a 200 whose body is a JSON value. -/
def Shows (reply : Reply) (v : Json) : Prop :=
  ∃ r, reply = .answered r ∧ r.status = 200 ∧ Json.readBytes r.body = .ok v

/-- Whether a reply tells the entry of a user. -/
def TellsEntry (reply : Reply) : Prop :=
  ∃ ms, reply.Shows (.obj ms) ∧ (∃ cn, Json.GivesText ms "cn" cn) ∧ ∃ dn, Json.GivesText ms "dn" dn

/-- Whether a reply lists groups, every item of it one of some names. -/
def ListsGroups (reply : Reply) (names : List Text) : Prop :=
  ∃ items, reply.Shows (.arr items) ∧ List.Forall₂ Json.NamesGroup items names

/-- Whether a request ran out of time. -/
def TimedOut (reply : Reply) : Prop :=
  ∃ fault message, reply = .failed fault message ∧ fault.isTimeout = true

/-- Whether a reply is a failed exchange, or an answer in its own encoding that declares no charset and does not nest
too deep. -/
def Legible : Reply → Prop
  | .answered r =>
    r.header? "content-encoding" = none ∧ r.DeclaresNoCharset ∧ ¬r.NestsTooDeep
  | .failed _ _ => True
  | .broken _ => False

@[simp] theorem not_timedOut_answered (r : Response) : ¬(answered r).TimedOut := by
  rintro ⟨fault, message, heq, -⟩
  cases heq

@[simp] theorem not_timedOut_broken (b : Breakdown) : ¬(broken b).TimedOut := by
  rintro ⟨fault, message, heq, -⟩
  cases heq

@[simp] theorem timedOut_failed_iff (fault : Exchange.Fault) (message : String) :
    (failed fault message).TimedOut ↔ fault.isTimeout = true := by
  constructor
  · rintro ⟨_, _, heq, ht⟩
    cases heq
    exact ht
  · intro ht
    exact ⟨fault, message, rfl, ht⟩

theorem Shows.unique {reply : Reply} {v w : Json} (hv : reply.Shows v) (hw : reply.Shows w) : v = w := by
  obtain ⟨r, rfl, -, hr⟩ := hv
  obtain ⟨_, h, -, hr'⟩ := hw
  cases h
  exact Except.ok.inj (hr.symm.trans hr')

theorem Shows.not_timedOut {reply : Reply} {v : Json} (h : reply.Shows v) : ¬reply.TimedOut := by
  obtain ⟨r, rfl, -⟩ := h
  exact not_timedOut_answered r

theorem Shows.not_derails {reply : Reply} {v : Json} (h : reply.Shows v) : ¬reply.Derails := by
  obtain ⟨r, rfl, hs, hr⟩ := h
  rintro (⟨hne, -⟩ | ⟨-, text, object, hdeep⟩)
  · exact hne hs
  · exact absurd (hr.symm.trans hdeep) (by simp)

theorem TellsEntry.not_timedOut {reply : Reply} (h : reply.TellsEntry) : ¬reply.TimedOut := by
  obtain ⟨ms, hs, -⟩ := h
  exact hs.not_timedOut

theorem TellsEntry.not_derails {reply : Reply} (h : reply.TellsEntry) : ¬reply.Derails := by
  obtain ⟨ms, hs, -⟩ := h
  exact hs.not_derails

theorem ListsGroups.unique {reply : Reply} {names names' : List Text} (h : reply.ListsGroups names)
    (h' : reply.ListsGroups names') : names = names' := by
  obtain ⟨items, hs, hitems⟩ := h
  obtain ⟨items', hs', hitems'⟩ := h'
  obtain rfl := Json.arr.inj (hs.unique hs')
  have hunique : Relator.RightUnique Json.NamesGroup := fun _ _ _ => Json.NamesGroup.unique
  exact List.right_unique_forall₂' hunique hitems hitems'

/-- One item that names no group leaves a reply that lists none. -/
theorem not_listsGroups_of_mem {reply : Reply} {items : List Json} {v : Json} (hs : reply.Shows (.arr items))
    (hv : v ∈ items) (hno : ∀ name, ¬v.NamesGroup name) (names : List Text) : ¬reply.ListsGroups names := by
  rintro ⟨items', hs', hitems⟩
  obtain rfl := Json.arr.inj (hs.unique hs')
  obtain ⟨i, rfl⟩ := List.get_of_mem hv
  exact hno _ ((List.forall₂_iff_get.1 hitems).2 i i.2 (hitems.length_eq ▸ i.2))

theorem Legible.not_derails {reply : Reply} (h : reply.Legible) : ¬reply.Derails := by
  cases reply with
  | broken => cases h
  | failed => exact id
  | answered r =>
    rintro (⟨-, hshown⟩ | ⟨-, hdeep⟩)
    · exact Response.not_isUnshown_of_declaresNoCharset h.2.1 hshown
    · exact h.2.2 hdeep

end Reply

namespace Reply

variable (reply : Reply)

/-- Whatever is told by a reply is told as it is received. -/
theorem shows_received_iff (v : Json) : reply.received.Shows v ↔ reply.Shows v := by
  rcases reply.received_cases with heq | ⟨r, message, rfl, hs, heq⟩
  · rw [heq]
  · rw [heq]
    refine iff_of_false ?_ ?_
    · rintro ⟨r', heq', -⟩
      cases heq'
    · rintro ⟨r', heq', hok, -⟩
      cases heq'
      exact hs hok

theorem tellsEntry_received_iff : reply.received.TellsEntry ↔ reply.TellsEntry := by
  simp only [TellsEntry, shows_received_iff]

theorem listsGroups_received_iff (names : List Text) :
    reply.received.ListsGroups names ↔ reply.ListsGroups names := by
  simp only [ListsGroups, shows_received_iff]

theorem timedOut_received_iff : reply.received.TimedOut ↔ reply.TimedOut := by
  rcases reply.received_cases with heq | ⟨r, message, rfl, hs, heq⟩
  · rw [heq]
  · rw [heq]
    simp [Exchange.Fault.isTimeout]

variable {reply}

theorem Legible.not_derails_received (h : reply.Legible) : ¬reply.received.Derails := by
  rcases reply.received_cases with heq | ⟨r, message, rfl, hs, heq⟩
  · rw [heq]
    exact h.not_derails
  · rw [heq]
    exact id

end Reply

/-- Two requests take the first two replies. -/
theorem Network.ask_of_two {n : Network} {first second : Reply} {rest : List Reply}
    (h : n.script = first :: second :: rest) (entry groups : Request) :
    (n.ask entry).1 = entry.receive first ∧ ((n.ask entry).2.ask groups).1 = groups.receive second := by
  obtain ⟨script, realm⟩ := n
  obtain rfl : script = first :: second :: rest := h
  exact ⟨rfl, rfl⟩

theorem Field.optional_text_eq_valid_iff (ms : Json.Members) (name : String) (text : Text) :
    Field.optional ms name ("" : Text) Field.text = .valid text ↔ Json.GivesText ms name text := by
  unfold Field.optional Json.GivesText
  cases ms.get? name with
  | none => simp [eq_comm]
  | some v => cases v <;> simp [Field.text, Checked.refuse, Checked.within]

/-- A list is valid when each item is, in its place. -/
theorem Field.items_eq_valid_iff {α : Type} (check : Json → Checked α) (first : Nat) (vs : List Json) (as : List α) :
    Field.items check first vs = .valid as ↔ List.Forall₂ (fun v a => check v = .valid a) vs as := by
  induction vs generalizing first as with
  | nil => simp [items, eq_comm]
  | cons v vs ih =>
    simp only [items, Checked.seq_eq_valid_iff, Checked.map_eq_valid_iff, Checked.within_eq_valid_iff, ih,
      List.forall₂_cons_left_iff]
    constructor
    · rintro ⟨_, rest, ⟨a, ha, rfl⟩, hrest, rfl⟩
      exact ⟨a, rest, ha, hrest, rfl⟩
    · rintro ⟨a, rest, ha, hrest, rfl⟩
      exact ⟨_, rest, ⟨a, ha, rfl⟩, hrest, rfl⟩

theorem Exchange.readBody_eq_ok_iff {α : Type} {target : Target α} {body : List UInt8} {a : α} :
    readBody target body = .ok a ↔ ∃ v, Json.readBytes body = .ok v ∧ target.check v = .valid a := by
  unfold readBody
  cases Json.readBytes body with
  | error g => simp
  | ok v => cases h : target.check v <;> simp [h]

namespace Target

theorem directoryEntry_check_iff (v : Json) (entry : DirectoryEntry) :
    directoryEntry.check v = .valid entry ↔
      ∃ ms, v = .obj ms ∧ Json.GivesText ms "cn" entry.cn ∧ Json.GivesText ms "dn" entry.dn := by
  cases v with
  | obj ms =>
    simp only [directoryEntry, record, DirectoryEntry.ofMembers, Checked.seq_eq_valid_iff, Checked.map_eq_valid_iff,
      Field.optional_text_eq_valid_iff]
    constructor
    · rintro ⟨_, dn, ⟨cn, hcn, rfl⟩, hdn, rfl⟩
      exact ⟨ms, rfl, hcn, hdn⟩
    · rintro ⟨_, hms, hcn, hdn⟩
      obtain rfl := Json.obj.inj hms
      exact ⟨_, entry.dn, ⟨entry.cn, hcn, rfl⟩, hdn, rfl⟩
  | _ => simp [directoryEntry, record, Checked.refuse]

theorem groupInfo_check_iff (v : Json) (group : GroupInfo) :
    groupInfo.check v = .valid group ↔ v.NamesGroup group.name := by
  cases v with
  | obj ms =>
    simp only [groupInfo, record, GroupInfo.ofMembers, Checked.map_eq_valid_iff, Field.optional_text_eq_valid_iff]
    constructor
    · rintro ⟨name, hname, rfl⟩
      exact ⟨ms, rfl, hname⟩
    · rintro ⟨_, hms, hname⟩
      obtain rfl := Json.obj.inj hms
      exact ⟨group.name, hname, rfl⟩
  | _ => simp [groupInfo, record, Checked.refuse, Json.NamesGroup]

theorem groups_check_iff (v : Json) (groups : List GroupInfo) :
    Target.groups.check v = .valid groups ↔
      ∃ items, v = .arr items ∧ List.Forall₂ Json.NamesGroup items (groups.map (·.name)) := by
  cases v with
  | arr items =>
    simp only [Target.groups, list, Field.items_eq_valid_iff, groupInfo_check_iff, List.forall₂_map_right_iff]
    constructor
    · intro h
      exact ⟨items, rfl, h⟩
    · rintro ⟨_, hitems, h⟩
      obtain rfl := Json.arr.inj hitems
      exact h
  | _ => simp [Target.groups, list, Checked.refuse]

end Target

namespace Reply

variable (reply : Reply)

theorem tellsEntry_iff : reply.TellsEntry ↔ ∃ entry, reply.Tells .directoryEntry entry := by
  constructor
  · rintro ⟨ms, ⟨r, hreply, hs, hr⟩, ⟨cn, hcn⟩, dn, hdn⟩
    have he := (Target.directoryEntry_check_iff _ ⟨cn, dn⟩).2 ⟨ms, rfl, hcn, hdn⟩
    exact ⟨_, r, hreply, hs, Exchange.readBody_eq_ok_iff.2 ⟨_, hr, he⟩⟩
  · rintro ⟨entry, r, hreply, hs, hb⟩
    obtain ⟨v, hr, he⟩ := Exchange.readBody_eq_ok_iff.1 hb
    obtain ⟨ms, rfl, hcn, hdn⟩ := (Target.directoryEntry_check_iff v entry).1 he
    exact ⟨ms, ⟨r, hreply, hs, hr⟩, ⟨_, hcn⟩, _, hdn⟩

theorem listsGroups_iff (groups : List GroupInfo) :
    reply.ListsGroups (groups.map (·.name)) ↔ reply.Tells .groups groups := by
  constructor
  · rintro ⟨items, ⟨r, hreply, hs, hr⟩, hitems⟩
    have he := (Target.groups_check_iff _ groups).2 ⟨items, rfl, hitems⟩
    exact ⟨r, hreply, hs, Exchange.readBody_eq_ok_iff.2 ⟨_, hr, he⟩⟩
  · rintro ⟨r, hreply, hs, hb⟩
    obtain ⟨v, hr, he⟩ := Exchange.readBody_eq_ok_iff.1 hb
    obtain ⟨items, rfl, hitems⟩ := (Target.groups_check_iff v groups).1 he
    exact ⟨items, ⟨r, hreply, hs, hr⟩, hitems⟩

theorem exists_listsGroups_iff : (∃ names, reply.ListsGroups names) ↔ ∃ groups, reply.Tells .groups groups := by
  constructor
  · rintro ⟨names, h⟩
    have hnames : (names.map GroupInfo.mk).map (·.name) = names := by
      rw [List.map_map]
      exact List.map_id names
    rw [← hnames] at h
    exact ⟨_, (reply.listsGroups_iff _).1 h⟩
  · rintro ⟨groups, h⟩
    exact ⟨_, (reply.listsGroups_iff groups).2 h⟩

end Reply

namespace GroupCheck

/-- What a group check makes of a lookup that has failed: only that a request ran out of time is told, every other
failure denies. -/
def denial : Trouble → Except Trouble Bool
  | .failure f => if f.kind = .cancelled then .error (.failure f) else .ok false
  | trouble => .error trouble

/-- What the reply to a failed lookup makes of the check. -/
inductive Denied (reply : Reply) : Except Trouble Bool → Prop
  | timedOut {f : Failure} (ht : reply.TimedOut) (hf : f.kind = .cancelled) : Denied reply (.error (.failure f))
  | refused (ht : ¬reply.TimedOut) (hd : ¬reply.Derails) : Denied reply (.ok false)
  | derailed {trouble : Trouble} (ht : ¬reply.TimedOut) (hd : reply.Derails) (hb : trouble.isFailure = false) :
      Denied reply (.error trouble)

namespace Denied

variable {reply : Reply} {result : Except Trouble Bool}

theorem ne_true (h : Denied reply result) : result ≠ .ok true := by
  cases h <;> simp

theorem cancelled_iff (h : Denied reply result) :
    (∃ f, result = .error (.failure f) ∧ f.kind = .cancelled) ↔ reply.TimedOut := by
  cases h with
  | timedOut ht hf => exact iff_of_true ⟨_, rfl, hf⟩ ht
  | refused ht hd => exact iff_of_false (by simp) ht
  | derailed ht hd hb =>
    refine iff_of_false ?_ ht
    rintro ⟨f, heq, -⟩
    cases heq
    cases hb

theorem eq_false_iff (h : Denied reply result) : result = .ok false ↔ ¬reply.TimedOut ∧ ¬reply.Derails := by
  cases h with
  | timedOut ht hf => exact iff_of_false (by simp) fun h => h.1 ht
  | refused ht hd => exact iff_of_true rfl ⟨ht, hd⟩
  | derailed ht hd hb => exact iff_of_false (by simp) fun h => h.2 hd

end Denied

theorem denied_of_judge {α : Type} {target : Target α} {service url : String} {reply : Reply} {trouble : Trouble}
    (h : (Exchange.judge target service url reply).2 = .error trouble) :
    Denied reply (denial trouble) := by
  have hj := Exchange.judge_judged target service url reply
  rw [h] at hj
  cases hj with
  | broken b => exact .derailed (Reply.not_timedOut_broken b) trivial rfl
  | timedOut message hf => exact .timedOut ((Reply.timedOut_failed_iff ..).2 hf) rfl
  | failed message hf => exact .refused (by simp [hf]) id
  | unshown hs hl => exact .derailed (Reply.not_timedOut_answered _) (.inl ⟨hs, hl⟩) rfl
  | tooDeep hs hd => exact .derailed (Reply.not_timedOut_answered _) (.inr ⟨hs, hd⟩) rfl
  | refused hs hl => exact .refused (Reply.not_timedOut_answered _) (by simp [Reply.Derails, hs, hl])
  | misfit hs hd => exact .refused (Reply.not_timedOut_answered _) (by simp [Reply.Derails, hs, hd])

variable (c : GroupCheck) {userKey : Text} {entry groups : Request} (timeout : Option Binary64) (site : Site)

/-- A check with a user key sends what its lookups send, and makes of their result what stands here. -/
theorem isAuthorized_of_profile (hk : userKey ≠ "") :
    (c.isAuthorized userKey timeout site).2.sent = (c.fetchProfile userKey timeout site).2.sent ∧
      (c.isAuthorized userKey timeout site).1 =
        match (c.fetchProfile userKey timeout site).1 with
        | .error trouble => denial trouble
        | .ok (_, groups) => .ok (c.granting? groups).isSome := by
  have h := c.isAuthorized_course userKey timeout site
  generalize c.isAuthorized userKey timeout site = o at h
  cases h with
  | noKey hk' => exact absurd hk' hk
  | granted _ hl hg | refused _ hl hg => simp [hl, hg]
  | cancelled _ hl hf | denied _ hl hf => simp [hl, hf, denial]
  | @broken trouble left _ hl ht =>
    cases trouble with
    | failure => cases ht
    | invalid | breakdown => simp [hl, denial]

/-- The lookups end with the first reply when it tells no entry, and otherwise with the second. -/
theorem fetchProfile_replies (he : c.entryRequest userKey = .ok entry) (hg : c.groupsRequest userKey = .ok groups) :
    (∃ trouble,
        (Exchange.judge .directoryEntry "directory" entry.url.text (site.network.ask entry).1).2 = .error trouble ∧
        (c.fetchProfile userKey timeout site).1 = .error trouble ∧
        (c.fetchProfile userKey timeout site).2.sent = site.sent ++ [⟨entry, timeout.getD c.directory.timeout⟩]) ∨
      ∃ told, (site.network.ask entry).1.Tells .directoryEntry told ∧
        (c.fetchProfile userKey timeout site).1 =
          (Exchange.judge .groups "directory" groups.url.text ((site.network.ask entry).2.ask groups).1).2.map
            (told, ·) ∧
        (c.fetchProfile userKey timeout site).2.sent = site.sent ++
          [⟨entry, timeout.getD c.directory.timeout⟩, ⟨groups, timeout.getD c.directory.timeout⟩] := by
  obtain ⟨key, rfl⟩ := c.exists_key_of_entryRequest userKey he
  have hfirst : c.fetchEntry key timeout site = _ :=
    (c.directory.fetch_of_request _ _ timeout site he).trans (Exchange.fetch_apply ..)
  have hsecond : ∀ between, c.fetchGroups key timeout between = _ := fun between =>
    (c.directory.fetch_of_request _ _ timeout between hg).trans (Exchange.fetch_apply ..)
  have h := c.fetchProfile_lookups key timeout site
  generalize c.fetchProfile key timeout site = o at h
  cases h with
  | torn hk => cases hk
  | noEntry hk hl =>
    obtain rfl := Text.whole.inj hk
    obtain ⟨hjudge, rfl⟩ := Prod.mk.inj (hfirst.symm.trans hl)
    exact .inl ⟨_, by simpa using hjudge, rfl, by simp⟩
  | noGroups hk hl hl' | told hk hl hl' =>
    obtain rfl := Text.whole.inj hk
    obtain ⟨hjudge, rfl⟩ := Prod.mk.inj (hfirst.symm.trans hl)
    obtain ⟨hjudge', rfl⟩ := Prod.mk.inj ((hsecond _).symm.trans hl')
    simp only [Site.noted_network, Site.asked_network] at hjudge hjudge'
    refine .inr ⟨_, (Exchange.judge_eq_ok_iff ..).1 hjudge, ?_, by simp⟩
    rw [hjudge']
    rfl

/-- What two replies make of a check, and how many of its two requests go out. -/
inductive Verdict (first second : Reply) : Except Trouble Bool → Nat → Prop
  | noEntry {result : Except Trouble Bool} (ht : ¬first.TellsEntry) (hd : Denied first result) :
      Verdict first second result 1
  | noGroups {result : Except Trouble Bool} (ht : first.TellsEntry) (hl : ∀ names, ¬second.ListsGroups names)
      (hd : Denied second result) : Verdict first second result 2
  | listed {names : List Text} (ht : first.TellsEntry) (hl : second.ListsGroups names) :
      Verdict first second (.ok (names.any c.allowed.contains)) 2

theorem isSome_granting? (told : List GroupInfo) :
    (c.granting? told).isSome = (told.map (·.name)).any c.allowed.contains := by
  rw [granting?, List.isSome_find?, List.any_map]
  rfl

theorem isAuthorized_verdict {first second : Reply} (hk : userKey ≠ "") (he : c.entryRequest userKey = .ok entry)
    (hg : c.groupsRequest userKey = .ok groups) (hfirst : (site.network.ask entry).1 = first)
    (hsecond : ((site.network.ask entry).2.ask groups).1 = second) :
    ∃ n, c.Verdict first second (c.isAuthorized userKey timeout site).1 n ∧
      (c.isAuthorized userKey timeout site).2.sent =
        site.sent ++ ([entry, groups].take n).map fun request => ⟨request, timeout.getD c.directory.timeout⟩ := by
  subst hfirst hsecond
  obtain ⟨hsent, hresult⟩ := c.isAuthorized_of_profile timeout site hk
  rw [hsent, hresult]
  -- the first lookup fails exactly when its reply tells no entry, the second when its reply lists no groups
  rcases c.fetchProfile_replies timeout site he hg with ⟨trouble, hj, hp, hs⟩ | ⟨told, ht, hp, hs⟩
  · refine ⟨1, ?_, hs⟩
    rw [hp]
    refine .noEntry ?_ (denied_of_judge hj)
    rw [Reply.tellsEntry_iff]
    rintro ⟨told, ht⟩
    exact absurd (hj.symm.trans ((Exchange.judge_eq_ok_iff ..).2 ht)) (by simp)
  · refine ⟨2, ?_, hs⟩
    have htold := (Reply.tellsEntry_iff _).2 ⟨told, ht⟩
    rw [hp]
    cases hj :
        (Exchange.judge Target.groups "directory" groups.url.text ((site.network.ask entry).2.ask groups).1).2 with
    | error trouble =>
      refine .noGroups htold (fun names hl => ?_) (denied_of_judge hj)
      obtain ⟨listed, hl⟩ := (Reply.exists_listsGroups_iff _).1 ⟨names, hl⟩
      exact absurd (hj.symm.trans ((Exchange.judge_eq_ok_iff ..).2 hl)) (by simp)
    | ok listed =>
      simp only [Except.map, isSome_granting?]
      exact .listed htold ((Reply.listsGroups_iff _ listed).2 ((Exchange.judge_eq_ok_iff ..).1 hj))

/-- Whether two replies let a user in: the first tells an entry, the second lists groups, and one of their names is
allowed. -/
def Admits (first second : Reply) : Prop :=
  first.TellsEntry ∧ ∃ names, second.ListsGroups names ∧ ∃ name ∈ names, name ∈ c.allowed

/-- Whether the first of two replies that fails is that of a request that ran out of time. -/
def GivesUp (first second : Reply) : Prop :=
  first.TimedOut ∨ first.TellsEntry ∧ second.TimedOut

/-- Whether the first of two replies that fails brings the reader down. -/
def BringsDown (first second : Reply) : Prop :=
  first.Derails ∨ first.TellsEntry ∧ second.Derails

theorem not_givesUp_of_shows {first second : Reply} {v : Json} (ht : first.TellsEntry) (hs : second.Shows v) :
    ¬GivesUp first second := by
  rintro (hfirst | ⟨-, hsecond⟩)
  · exact ht.not_timedOut hfirst
  · exact hs.not_timedOut hsecond

theorem not_bringsDown_of_shows {first second : Reply} {v : Json} (ht : first.TellsEntry) (hs : second.Shows v) :
    ¬BringsDown first second := by
  rintro (hfirst | ⟨-, hsecond⟩)
  · exact ht.not_derails hfirst
  · exact hs.not_derails hsecond

namespace Verdict

variable {c} {first second : Reply} {result : Except Trouble Bool} {n : Nat}

theorem eq_true_iff (h : c.Verdict first second result n) : result = .ok true ↔ c.Admits first second := by
  cases h with
  | noEntry ht hd => exact iff_of_false hd.ne_true fun h => ht h.1
  | noGroups ht hl hd =>
    refine iff_of_false hd.ne_true ?_
    rintro ⟨-, names, hnames, -⟩
    exact hl names hnames
  | @listed names ht hl =>
    have hany : names.any c.allowed.contains = true ↔ ∃ name ∈ names, name ∈ c.allowed := by simp
    rw [Except.ok.injEq, hany]
    constructor
    · intro hin
      exact ⟨ht, names, hl, hin⟩
    · rintro ⟨-, names', hl', hin⟩
      rwa [hl.unique hl']

theorem cancelled_iff (h : c.Verdict first second result n) :
    (∃ f, result = .error (.failure f) ∧ f.kind = .cancelled) ↔ GivesUp first second := by
  cases h with
  | noEntry ht hd => simp only [hd.cancelled_iff, GivesUp, ht, false_and, or_false]
  | noGroups ht hl hd => simp only [hd.cancelled_iff, GivesUp, ht, ht.not_timedOut, true_and, false_or]
  | listed ht hl =>
    obtain ⟨items, hs, -⟩ := hl
    exact iff_of_false (by simp) (not_givesUp_of_shows ht hs)

theorem eq_false_iff (h : c.Verdict first second result n) :
    result = .ok false ↔ ¬c.Admits first second ∧ ¬GivesUp first second ∧ ¬BringsDown first second := by
  rw [← h.eq_true_iff]
  cases h with
  | noEntry ht hd =>
    simp only [hd.eq_false_iff, hd.ne_true, GivesUp, BringsDown, ht, false_and, or_false, not_false_eq_true, true_and]
  | noGroups ht hl hd =>
    simp only [hd.eq_false_iff, hd.ne_true, GivesUp, BringsDown, ht, ht.not_timedOut, ht.not_derails, true_and,
      false_or, not_false_eq_true]
  | listed ht hl =>
    obtain ⟨items, hs, -⟩ := hl
    simp only [not_givesUp_of_shows ht hs, not_bringsDown_of_shows ht hs, not_false_eq_true, and_true,
      Except.ok.injEq, Bool.not_eq_true]

theorem count_of_not_tellsEntry (h : c.Verdict first second result n) (ht : ¬first.TellsEntry) : n = 1 := by
  cases h with
  | noEntry => rfl
  | noGroups ht' | listed ht' => exact absurd ht' ht

theorem count_of_tellsEntry (h : c.Verdict first second result n) (ht : first.TellsEntry) : n = 2 := by
  cases h with
  | noEntry ht' => exact absurd ht ht'
  | noGroups | listed => rfl

end Verdict

/-- Without a user key nothing is sent and nobody is let in. -/
theorem isAuthorized_of_no_key :
    (c.isAuthorized "" timeout site).1 = .ok false ∧ (c.isAuthorized "" timeout site).2.sent = site.sent := by
  have h := c.isAuthorized_course "" timeout site
  generalize c.isAuthorized "" timeout site = o at h
  cases h with
  | noKey => exact ⟨rfl, Site.noted_sent ..⟩
  | granted hk | refused hk | cancelled hk | denied hk | broken hk => exact absurd rfl hk

/-- Group checks by their answers, failing closed. Without a user key nothing is sent and nobody is let in. With one
whose lookups can be addressed, and as long as the client can receive the answers, a user is let in exactly when the two
answers admit; the caller is told exactly of a request that ran out of time before another lookup failed; and whatever
else is answered denies. The second request goes out only once the first has told an entry. So one entry that is no group
denies, whichever groups are listed beside it. -/
theorem isAuthorized_by_answers :
    (∀ timeout site,
        (c.isAuthorized "" timeout site).1 = .ok false ∧ (c.isAuthorized "" timeout site).2.sent = site.sent) ∧
      ∀ (userKey : Text) (entry groups : Request) (first second : Reply) (rest : List Reply)
        (timeout : Option Binary64) (site : Site),
        userKey ≠ "" → c.entryRequest userKey = .ok entry → c.groupsRequest userKey = .ok groups →
        site.network.script = first :: second :: rest → first.Legible → second.Legible →
        entry.CanReceive first → groups.CanReceive second →
        let checked := c.isAuthorized userKey timeout site
        let given := timeout.getD c.directory.timeout
        (checked.1 = .ok true ↔ c.Admits first second) ∧
          ((∃ f, checked.1 = .error (.failure f) ∧ f.kind = .cancelled) ↔ GivesUp first second) ∧
          (¬c.Admits first second → ¬GivesUp first second → checked.1 = .ok false) ∧
          (¬first.TellsEntry → checked.2.sent = site.sent ++ [⟨entry, given⟩]) ∧
          (first.TellsEntry → checked.2.sent = site.sent ++ [⟨entry, given⟩, ⟨groups, given⟩]) ∧
          ∀ items, first.TellsEntry → second.Shows (.arr items) → (∃ v ∈ items, ∀ name, ¬v.NamesGroup name) →
            checked.1 = .ok false := by
  refine ⟨c.isAuthorized_of_no_key, ?_⟩
  intro userKey entry groups first second rest timeout site hk he hg hscript hl hl' hr hr' checked given
  obtain ⟨hfirst, hsecond⟩ := site.network.ask_of_two hscript entry groups
  rw [hr.receive_eq] at hfirst
  rw [hr'.receive_eq] at hsecond
  obtain ⟨n, hverdict, hsent⟩ := c.isAuthorized_verdict timeout site hk he hg hfirst hsecond
  have hadmits : c.Admits first.received second.received ↔ c.Admits first second := by
    simp only [Admits, Reply.tellsEntry_received_iff, Reply.listsGroups_received_iff]
  have hgives : GivesUp first.received second.received ↔ GivesUp first second := by
    simp only [GivesUp, Reply.tellsEntry_received_iff, Reply.timedOut_received_iff]
  have hfalse : ¬c.Admits first second → ¬GivesUp first second → checked.1 = .ok false := by
    intro hno hno'
    refine hverdict.eq_false_iff.2 ⟨mt hadmits.1 hno, mt hgives.1 hno', ?_⟩
    rintro (hd | ⟨-, hd⟩)
    · exact hl.not_derails_received hd
    · exact hl'.not_derails_received hd
  refine ⟨hverdict.eq_true_iff.trans hadmits, hverdict.cancelled_iff.trans hgives, hfalse, ?_, ?_, ?_⟩
  · intro ht
    obtain rfl := hverdict.count_of_not_tellsEntry (mt first.tellsEntry_received_iff.1 ht)
    exact hsent
  · intro ht
    obtain rfl := hverdict.count_of_tellsEntry (first.tellsEntry_received_iff.2 ht)
    exact hsent
  · rintro items ht hs ⟨v, hv, hno⟩
    refine hfalse ?_ (not_givesUp_of_shows ht hs)
    rintro ⟨-, names, hnames, -⟩
    exact Reply.not_listsGroups_of_mem hs hv hno names hnames

/-- An allowed group lets the user in, and no longer does once an entry that is no group stands behind it. -/
theorem isAuthorized_by_answers_of_two :
    let c : GroupCheck := ⟨{ baseUrl := "http://id.test/user/" }, ["ops"]⟩
    let listed : Reply := .told "[\x7b\x22name\x22: \x22ops\x22\x7d]"
    let malformed : Reply := .told "[\x7b\x22name\x22: \x22ops\x22\x7d, \x7b\x22name\x22: 7\x7d]"
    let site (second : Reply) : Site := { network := { script := [.told "\x7b\x7d", second] } }
    (c.isAuthorized "uid=a" none (site listed)).1 = .ok true ∧
      (c.isAuthorized "uid=a" none (site malformed)).1 = .ok false := by
  intro c listed malformed site
  let entry : Request := ⟨"GET", ⟨"http", "", "id.test", none, "/user/uid=a", none, none⟩, [("host", "id.test")]⟩
  let groups : Request :=
    ⟨"GET", ⟨"http", "", "id.test", none, "/user/uid=a/groups", none, none⟩, [("host", "id.test")]⟩
  have he : c.entryRequest "uid=a" = .ok entry := by decide +kernel
  have hg : c.groupsRequest "uid=a" = .ok groups := by decide +kernel
  have hshows : ∀ (body : String) (v : Json), Json.readBytes (Utf8.encode body.toList) = .ok v →
      (Reply.told body).Shows v ∧ (Reply.told body).Legible := by
    intro body v hr
    refine ⟨⟨_, rfl, rfl, hr⟩, rfl, fun text ht => (by cases ht), ?_⟩
    rintro ⟨text, object, hdeep⟩
    exact absurd (hr.symm.trans hdeep) (by simp)
  have hops : Json.NamesGroup (.obj [("name", .str "ops")]) "ops" := ⟨_, rfl, .inl rfl⟩
  have hseven : ∀ name, ¬Json.NamesGroup (.obj [("name", .int 7)]) name := by
    rintro name ⟨ms, hms, hname⟩
    obtain rfl := Json.obj.inj hms
    rcases hname with hname | ⟨hname, -⟩ <;> cases hname
  obtain ⟨hentry, hlegible⟩ := hshows "\x7b\x7d" (.obj []) (by decide +kernel)
  obtain ⟨hlist, hlegible'⟩ := hshows "[\x7b\x22name\x22: \x22ops\x22\x7d]" (.arr [.obj [("name", .str "ops")]])
    (by decide +kernel)
  obtain ⟨hbad, hlegible''⟩ := hshows "[\x7b\x22name\x22: \x22ops\x22\x7d, \x7b\x22name\x22: 7\x7d]"
    (.arr [.obj [("name", .str "ops")], .obj [("name", .int 7)]]) (by decide +kernel)
  have htold : (Reply.told "\x7b\x7d").TellsEntry := ⟨[], hentry, ⟨"", .inr ⟨rfl, rfl⟩⟩, "", .inr ⟨rfl, rfl⟩⟩
  obtain ⟨-, hcheck⟩ := c.isAuthorized_by_answers
  have hkey : ("uid=a" : Text) ≠ "" := by decide
  have hreceived := @Request.canReceive_told entry (by decide +kernel)
  have hreceived' := @Request.canReceive_told groups (by decide +kernel)
  constructor
  · obtain ⟨hgrants, -⟩ :=
      hcheck "uid=a" entry groups _ listed [] none (site listed) hkey he hg rfl hlegible hlegible' (hreceived _)
        (hreceived' _)
    exact hgrants.2 ⟨htold, ["ops"], ⟨_, hlist, .cons hops .nil⟩, "ops", by simp, by simp [c]⟩
  · obtain ⟨-, -, -, -, -, hmalformed⟩ :=
      hcheck "uid=a" entry groups _ malformed [] none (site malformed) hkey he hg rfl hlegible hlegible'' (hreceived _)
        (hreceived' _)
    exact hmalformed _ htold hbad ⟨_, by simp, hseven⟩

/-- An answer that leads to no place is neither admitted nor out of time, and yet the check does not come to false: the
client fails on it before anyone sees it. -/
theorem isAuthorized_of_misleading_answer :
    let c : GroupCheck := ⟨{ baseUrl := "http://id.test/user/" }, ["ops"]⟩
    let first : Reply := .answered ⟨302, [("location", "mailto:x")], []⟩
    let checked := c.isAuthorized "uid=a" none { network := { script := [first] } }
    first.Legible ∧ (∀ second, ¬c.Admits first second ∧ ¬GivesUp first second) ∧
      checked.1 = .error (.broken .invalidAddress "For absolute URLs, path must be empty or begin with '/'") ∧
      checked.1 ≠ .ok false := by
  intro c first checked
  have hchecked : checked.1 =
      .error (.broken .invalidAddress "For absolute URLs, path must be empty or begin with '/'") := by decide +kernel
  have hshows : ∀ v, ¬first.Shows v := by
    rintro v ⟨r, heq, hs, -⟩
    obtain rfl := Reply.answered.inj heq
    cases hs
  have htold : ¬first.TellsEntry := by
    rintro ⟨ms, hs, -⟩
    exact hshows _ hs
  have hplain : Response.header? ⟨302, [("location", "mailto:x")], []⟩ "content-encoding" = none ∧
      Response.header? ⟨302, [("location", "mailto:x")], []⟩ "content-type" = none := by decide +kernel
  have hcharset : Response.DeclaresNoCharset ⟨302, [("location", "mailto:x")], []⟩ := by
    intro text ht
    exact absurd (hplain.2.symm.trans ht) (by simp)
  refine ⟨⟨hplain.1, hcharset, ?_⟩, fun second => ⟨fun h => htold h.1, ?_⟩, hchecked, ?_⟩
  · rintro ⟨text, object, hdeep⟩
    cases hdeep
  · rintro (ht | ⟨ht, -⟩)
    · exact absurd ht (Reply.not_timedOut_answered _)
    · exact htold ht
  · rw [hchecked]
    simp

end GroupCheck

end SignOn
