import SignOn.Proofs.Classification
import SignOn.Proofs.Refreshing
import SignOn.Proofs.Resolving

/-!
Answers that agree on the members that count. What else an answer holds, and in which order, makes no difference to the
provider, save that the plain names of a token's owner count where those on the wire are missing.
-/

namespace SignOn

namespace Json

/-- Whether two values agree on some members: both are objects with the same under each of their names, or neither is an
object. -/
inductive Agree (names : List String) : Json → Json → Prop
  | objects {ms ns : Members} (h : ∀ name ∈ names, ms.get? name = ns.get? name) : Agree names (.obj ms) (.obj ns)
  | others {v w : Json} (hv : ∀ ms, v ≠ .obj ms) (hw : ∀ ms, w ≠ .obj ms) : Agree names v w

/-- Whether two lists are of one length and agree item by item. -/
def AgreeInItems (names : List String) (v w : Json) : Prop :=
  ∃ items items', v = .arr items ∧ w = .arr items' ∧ List.Forall₂ (Agree names) items items'

/-- Whether two objects that lack a member have the same in its stead. -/
def AgreeInStead (wire plain : String) (v w : Json) : Prop :=
  ∀ ms ns : Members, v = .obj ms → w = .obj ns → ms.get? wire = none → ms.get? plain = ns.get? plain

end Json

/-- Whether two replies are 200s that show values in some relation. -/
def Reply.Agree (R : Json → Json → Prop) (reply reply' : Reply) : Prop :=
  ∃ v w, reply.Shows v ∧ reply'.Shows w ∧ R v w

/-- A request whose address has no type is the same for both, and any other receives them as they are. -/
theorem Reply.Agree.receive {R : Json → Json → Prop} {reply reply' : Reply} (h : reply.Agree R reply')
    (request : Request) :
    (request.receive reply = reply ∧ request.receive reply' = reply') ∨
      request.receive reply = request.receive reply' := by
  obtain ⟨v, w, ⟨r, rfl, hs, -⟩, ⟨r', rfl, hs', -⟩, -⟩ := h
  cases ht : Url.untyped? request.url.text with
  | none =>
    exact .inl ⟨Request.receive_of_typed ht (Response.location?_of_ok hs),
      Request.receive_of_typed ht (Response.location?_of_ok hs')⟩
  | some shown => exact .inr (by simp only [Request.receive, ht])

theorem Reply.shows_told {body : String} {v : Json} (h : Json.readBytes (Utf8.encode body.toList) = .ok v) :
    (told body).Shows v :=
  ⟨_, rfl, rfl, h⟩

namespace Field

variable {α : Type} {ms ns : Json.Members} (otherwise : α) (check : Json → Checked α)

theorem optional_congr {name : String} (h : ms.get? name = ns.get? name) :
    optional ms name otherwise check = optional ns name otherwise check := by
  unfold optional
  rw [h]

theorem aliased_congr {wire plain : String} (h : ms.get? wire = ns.get? wire)
    (hstead : ms.get? wire = none → ms.get? plain = ns.get? plain) :
    aliased ms [wire, plain] otherwise check = aliased ns [wire, plain] otherwise check := by
  cases hw : ms.get? wire with
  | none =>
    rw [aliased_of_none plain otherwise check hw, aliased_of_none plain otherwise check (h ▸ hw)]
    exact optional_congr otherwise check (hstead hw)
  | some v => rw [aliased_of_some plain otherwise check hw, aliased_of_some plain otherwise check (h ▸ hw)]

theorem items_congr {vs ws : List Json} (h : List.Forall₂ (fun v w => check v = check w) vs ws) (first : Nat) :
    items check first vs = items check first ws := by
  induction h generalizing first with
  | nil => rfl
  | cons hvw _ ih => rw [items, items, hvw, ih]

end Field

theorem Json.GivesEither.eq_empty {ms : Json.Members} {wire plain : String} {text : Text}
    (h : Json.GivesEither ms wire plain text) (hw : ms.get? wire = none) (hp : ms.get? plain = none) : text = "" := by
  rcases h with h | ⟨-, h | ⟨-, h⟩⟩
  · exact absurd (h.symm.trans hw) (by simp)
  · exact absurd (h.symm.trans hp) (by simp)
  · exact h

namespace Target

variable {α : Type} {v w : Json}

/-- A record is read alike from two values that agree on some members, if its members are. -/
theorem record_check_congr {names : List String} {ofMembers : Json.Members → Checked α} {members : α → Json.Members}
    (h : v.Agree names w)
    (hmembers : ∀ ms ns, v = .obj ms → w = .obj ns → (∀ name ∈ names, Table.get? ms name = Table.get? ns name) →
      ofMembers ms = ofMembers ns) :
    (record ofMembers members).check v = (record ofMembers members).check w := by
  have hrefuse : ∀ u : Json, (∀ ms, u ≠ .obj ms) → (record ofMembers members).check u = .refuse .notRecord := by
    intro u hu
    cases u with
    | obj ms => exact absurd rfl (hu ms)
    | _ => rfl
  cases h with
  | objects hagree => exact hmembers _ _ rfl rfl hagree
  | others hv hw => rw [hrefuse v hv, hrefuse w hw]

theorem tokenInfo_check_congr (h : v.Agree ["mail", "dn"] w) (hemail : v.AgreeInStead "mail" "email" w)
    (huser : v.AgreeInStead "dn" "user" w) : tokenInfo.check v = tokenInfo.check w := by
  apply record_check_congr h
  intro ms ns hv hw hagree
  rw [TokenInfo.ofMembers, TokenInfo.ofMembers,
    Field.aliased_congr (.whole "") Field.text (hagree "mail" (by simp)) (hemail ms ns hv hw),
    Field.aliased_congr (.whole "") Field.text (hagree "dn" (by simp)) (huser ms ns hv hw)]

theorem directoryEntry_check_congr (h : v.Agree ["cn", "dn"] w) : directoryEntry.check v = directoryEntry.check w := by
  apply record_check_congr h
  intro ms ns _ _ hagree
  rw [DirectoryEntry.ofMembers, DirectoryEntry.ofMembers,
    Field.optional_congr (.whole "") Field.text (hagree "cn" (by simp)),
    Field.optional_congr (.whole "") Field.text (hagree "dn" (by simp))]

theorem groupInfo_check_congr (h : v.Agree ["name"] w) : groupInfo.check v = groupInfo.check w := by
  apply record_check_congr h
  intro ms ns _ _ hagree
  rw [GroupInfo.ofMembers, GroupInfo.ofMembers, Field.optional_congr (.whole "") Field.text (hagree "name" (by simp))]

theorem groups_check_congr (h : v.AgreeInItems ["name"] w) : Target.groups.check v = Target.groups.check w := by
  obtain ⟨items, items', rfl, rfl, hitems⟩ := h
  apply Field.items_congr
  exact hitems.imp fun _ _ => groupInfo_check_congr

end Target

namespace Exchange

variable {α : Type} {target : Target α}

/-- Replies that show values which read alike come to the same. -/
theorem judge_congr {R : Json → Json → Prop} (hR : ∀ v w, R v w → target.check v = target.check w)
    {reply reply' : Reply} (h : reply.Agree R reply') (service url : String) :
    judge target service url reply = judge target service url reply' := by
  obtain ⟨v, w, ⟨r, rfl, hs, hr⟩, ⟨r', rfl, hs', hr'⟩, hvw⟩ := h
  have hbody : readBody target r.body = readBody target r'.body := by
    simp only [readBody, hr, hr', hR v w hvw]
  simp [judge, hs, hs', hbody]

theorem fetch_congr {R : Json → Json → Prop} (hR : ∀ v w, R v w → target.check v = target.check w) {request : Request}
    {service : String} {timeout : Binary64} {site site' : Site}
    (h : Reply.Agree R (site.network.reply request).1 (site'.network.reply request).1) :
    (fetch request target service timeout site).1 = (fetch request target service timeout site').1 := by
  have hask : ∀ n : Network, (n.ask request).1 = request.receive (n.reply request).1 := fun _ => rfl
  rw [fetch_apply, fetch_apply, hask, hask]
  rcases h.receive request with ⟨hfirst, hsecond⟩ | hsame
  · rw [hfirst, hsecond, judge_congr hR h]
  · rw [hsame]

end Exchange

namespace Directory

variable {α : Type} {d : Directory} {path : String} {target : Target α} {timeout : Option Binary64} {site site' : Site}

theorem fetch_congr {R : Json → Json → Prop} (hR : ∀ v w, R v w → target.check v = target.check w)
    (h : ∀ request, d.request path [] = .ok request →
      Reply.Agree R (site.network.reply request).1 (site'.network.reply request).1) :
    (d.fetch path target none timeout site).1 = (d.fetch path target none timeout site').1 := by
  cases hr : d.request path [] with
  | error trouble =>
    rw [d.fetch_of_no_request path target timeout site hr, d.fetch_of_no_request path target timeout site' hr]
  | ok request =>
    rw [d.fetch_of_request path target timeout site hr, d.fetch_of_request path target timeout site' hr]
    apply Exchange.fetch_congr hR
    rw [Site.noted_network, Site.noted_network]
    exact h request hr

end Directory

namespace GroupCheck

variable (c : GroupCheck) {userKey : Text} {timeout : Option Binary64} {site site' : Site}

/-- The second lookup starts where the first has left off. -/
theorem fetchProfile_result (key : String) (timeout : Option Binary64) (site : Site) :
    (c.fetchProfile key timeout site).1 =
      (c.fetchEntry key timeout site).1.bind fun entry =>
        (c.fetchGroups key timeout (c.fetchEntry key timeout site).2).1.map (entry, ·) := by
  have h := c.fetchProfile_lookups key timeout site
  generalize c.fetchProfile key timeout site = o at h
  cases h with
  | torn hk => cases hk
  | noEntry hk he =>
    obtain rfl := Text.whole.inj hk
    rw [he]
    rfl
  | noGroups hk he hg | told hk he hg =>
    obtain rfl := Text.whole.inj hk
    simp only [he, Except.bind, hg]
    rfl

/-- Whether two networks answer the lookups of a user alike: the entries agree on their members, and the groups on their
names. -/
def AnswersAgree (userKey : Text) (n n' : Network) : Prop :=
  ∀ entry, c.entryRequest userKey = .ok entry →
    Reply.Agree (Json.Agree ["cn", "dn"]) (n.reply entry).1 (n'.reply entry).1 ∧
      ∀ groups, c.groupsRequest userKey = .ok groups →
        Reply.Agree (Json.AgreeInItems ["name"]) ((n.reply entry).2.reply groups).1
          ((n'.reply entry).2.reply groups).1

theorem fetchProfile_congr (h : c.AnswersAgree userKey site.network site'.network) :
    (c.fetchProfile userKey timeout site).1 = (c.fetchProfile userKey timeout site').1 := by
  cases userKey with
  | torn front half back => rfl
  | whole key =>
    have hentry : (c.fetchEntry key timeout site).1 = (c.fetchEntry key timeout site').1 := by
      apply Directory.fetch_congr fun _ _ => Target.directoryEntry_check_congr
      intro entry he
      exact (h entry he).1
    rw [fetchProfile_result, fetchProfile_result, ← hentry]
    cases hfirst : (c.fetchEntry key timeout site).1 with
    | error trouble => rfl
    | ok told =>
      have hgroups : (c.fetchGroups key timeout (c.fetchEntry key timeout site).2).1 =
          (c.fetchGroups key timeout (c.fetchEntry key timeout site').2).1 := by
        obtain ⟨entry, he, -⟩ := (c.directory.fetch_eq_ok_iff _ .directoryEntry timeout site told).1 hfirst
        apply Directory.fetch_congr fun _ _ => Target.groups_check_congr
        intro groups hg
        rw [show (c.fetchEntry key timeout site).2.network = _ from c.directory.fetch_network _ _ timeout site he,
          show (c.fetchEntry key timeout site').2.network = _ from c.directory.fetch_network _ _ timeout site' he]
        exact (h entry he).2 groups hg
      simp only [Except.bind, hgroups]

theorem isAuthorized_congr (h : c.AnswersAgree userKey site.network site'.network) :
    (c.isAuthorized userKey timeout site).1 = (c.isAuthorized userKey timeout site').1 := by
  by_cases hk : userKey = ""
  · subst hk
    rw [(c.isAuthorized_of_no_key timeout site).1, (c.isAuthorized_of_no_key timeout site').1]
  · rw [(c.isAuthorized_of_profile timeout site hk).2, (c.isAuthorized_of_profile timeout site' hk).2,
      c.fetchProfile_congr h]

end GroupCheck

namespace Resolver

theorem Takes.unique {s : Session} {told : Except Trouble TokenInfo} {o o' : Outcome Unit} (h : Takes s told o)
    (h' : Takes s told o') : o = o' := by
  cases told with
  | error trouble => rw [h.raised trouble rfl, h'.raised trouble rfl]
  | ok info =>
    obtain ⟨session, result⟩ := o
    obtain ⟨session', result'⟩ := o'
    have hsession : session = session' := (h.written info rfl).trans (h'.written info rfl).symm
    have hresult : result = result' := by
      by_cases he : info.email = ""
      · exact ((h.incomplete info rfl).2 he).trans ((h'.incomplete info rfl).2 he).symm
      · exact (h.complete info rfl he).trans (h'.complete info rfl he).symm
    rw [hsession, hresult]

/-- Whether two networks answer a question about a token alike: on both members that are on the wire, and on what stands
in for them where they are missing. -/
def AnswersAgree (r : Resolver) (token : Text) (n n' : Network) : Prop :=
  ∀ request, r.request token = .ok request →
    Reply.Agree
      (fun v w => v.Agree ["mail", "dn"] w ∧ v.AgreeInStead "mail" "email" w ∧ v.AgreeInStead "dn" "user" w)
      (n.reply request).1 (n'.reply request).1

theorem resolve_congr (r : Resolver) {s : Session} {timeout : Option Binary64} {site site' : Site}
    (h : r.AnswersAgree s.accessToken site.network site'.network) :
    (r.resolve s timeout site).1 = (r.resolve s timeout site').1 := by
  cases hs : s.isResolved with
  | true => rw [r.resolve_of_isResolved timeout site hs, r.resolve_of_isResolved timeout site' hs]
  | false =>
    by_cases ht : s.accessToken = ""
    · rw [r.resolve_of_no_token timeout site hs ht, r.resolve_of_no_token timeout site' hs ht]
    · cases hr : r.request s.accessToken with
      | error trouble => simp only [resolve, hs, ht, hr, Bool.false_eq_true, if_false, Effect.pure_apply]
      | ok request =>
        have hask : (r.ask timeout request site).1 = (r.ask timeout request site').1 := by
          apply Exchange.fetch_congr _ (h request hr)
          intro v w hvw
          exact Target.tokenInfo_check_congr hvw.1 hvw.2.1 hvw.2.2
        obtain ⟨-, -, htakes⟩ := r.resolve_of_request timeout site hs ht hr
        obtain ⟨-, -, htakes'⟩ := r.resolve_of_request timeout site' hs ht hr
        rw [← hask] at htakes'
        exact htakes.unique htakes'

end Resolver

namespace Provider

variable (p : Provider)

theorem refresh_congr {s : Session} {now : Instant} {timeout : Option Binary64} {site site' : Site}
    (h : (p.validateGroup s timeout site).1 = (p.validateGroup s timeout site').1) :
    (p.refresh s now timeout site).1 = (p.refresh s now timeout site').1 := by
  by_cases hrests : Rests s now
  · rw [p.refresh_of_rests hrests, p.refresh_of_rests hrests]
  · rw [(p.refresh_of_not_rests hrests timeout site).2.2, (p.refresh_of_not_rests hrests timeout site').2.2, h]

/-- Only the members on the wire count, and the plain ones in the place of those that are missing. Two networks whose
answers about a token agree on mail and dn, and on what stands in for them, lead an operation that resolves to the same
outcome: session, value and failure. So do two networks whose entries agree on cn and dn and whose groups agree on their
names one by one, for group check and refresh. A member that is missing under both its names counts as the empty text. -/
theorem perform_by_members (s : Session) (now : Instant) (timeout : Option Binary64) (site site' : Site) :
    (∀ op : Operation, op.resolves = true →
      p.resolver.AnswersAgree s.accessToken site.network site'.network →
      (p.perform op s now timeout site).1 = (p.perform op s now timeout site').1) ∧
    (∀ op : Operation, op = .validateGroup ∨ op = .refresh →
      p.groupCheck.AnswersAgree s.user site.network site'.network →
      (p.perform op s now timeout site).1 = (p.perform op s now timeout site').1) ∧
    ∀ (ms : Json.Members) (info : TokenInfo), TokenInfo.ofMembers ms = .valid info →
      (ms.get? "mail" = none → ms.get? "email" = none → info.email = "") ∧
      (ms.get? "dn" = none → ms.get? "user" = none → info.user = "") := by
  refine ⟨?_, ?_, ?_⟩
  · intro op hop h
    rw [perform_of_resolves hop, perform_of_resolves hop, p.resolver.resolve_congr h]
  · intro op hop h
    have hcheck : (p.validateGroup s timeout site).1 = (p.validateGroup s timeout site').1 :=
      p.groupCheck.isAuthorized_congr h
    rcases hop with rfl | rfl
    · exact congrArg (fun result => (⟨s, result.map .truth⟩ : Outcome Value)) hcheck
    · exact congrArg (Outcome.map fun _ r => r.map Value.truth) (p.refresh_congr hcheck)
  · intro ms info h
    obtain ⟨_, hms, hemail, huser⟩ := (Target.tokenInfo_check_iff (.obj ms) info).1 h
    obtain rfl := Json.obj.inj hms
    exact ⟨hemail.eq_empty, huser.eq_empty⟩

/-- Two tellings of one identity, and two of one group, with other members around what counts. -/
theorem perform_by_members_of_two :
    let p := make "sso.example" "directory.example" ["ops"] {}
    let site (bodies : List String) : Site := { network := { script := bodies.map .told } }
    let plain := "\x7b\x22mail\x22: \x22j@example\x22, \x22dn\x22: \x22uid=j\x22\x7d"
    let rich := "\x7b\x22uid\x22: 7, \x22dn\x22: \x22uid=j\x22, \x22mail\x22: 5, \x22mail\x22: \x22j@example\x22\x7d"
    let entry := "\x7b\x22uid\x22: 7\x7d"
    let groups := "[\x7b\x22name\x22: \x22ops\x22\x7d]"
    let richer := "[\x7b\x22id\x22: 1, \x22name\x22: \x22ops\x22\x7d]"
    (p.perform .getProfile { accessToken := "t" } 0 none (site [plain])).1 =
        (p.perform .getProfile { accessToken := "t" } 0 none (site [rich])).1 ∧
      (p.perform .validateGroup { user := "uid=j" } 0 none (site ["\x7b\x7d", groups])).1 =
        (p.perform .validateGroup { user := "uid=j" } 0 none (site [entry, richer])).1 := by
  intro p site plain rich entry groups richer
  constructor
  · have hplain : (Reply.told plain).Shows (.obj [("mail", .str "j@example"), ("dn", .str "uid=j")]) :=
      Reply.shows_told (by decide +kernel)
    have hrich : (Reply.told rich).Shows (.obj [("uid", .int 7), ("dn", .str "uid=j"), ("mail", .str "j@example")]) :=
      Reply.shows_told (by decide +kernel)
    obtain ⟨htoken, -, -⟩ := p.perform_by_members { accessToken := "t" } 0 none (site [plain]) (site [rich])
    apply htoken .getProfile rfl
    intro request _
    refine ⟨_, _, hplain, hrich, .objects (by decide), ?_, ?_⟩
    all_goals
      intro ms ns hms hns hnone
      obtain rfl := Json.obj.inj hms
      simp [Table.get?] at hnone
  · have hempty : (Reply.told "\x7b\x7d").Shows (.obj []) := Reply.shows_told (by decide +kernel)
    have hentry : (Reply.told entry).Shows (.obj [("uid", .int 7)]) := Reply.shows_told (by decide +kernel)
    have hgroups : (Reply.told groups).Shows (.arr [.obj [("name", .str "ops")]]) := Reply.shows_told (by decide +kernel)
    have hricher : (Reply.told richer).Shows (.arr [.obj [("id", .int 1), ("name", .str "ops")]]) :=
      Reply.shows_told (by decide +kernel)
    obtain ⟨-, hcheck, -⟩ :=
      p.perform_by_members { user := "uid=j" } 0 none (site ["\x7b\x7d", groups]) (site [entry, richer])
    apply hcheck .validateGroup (.inl rfl)
    intro request _
    refine ⟨⟨_, _, hempty, hentry, .objects (by decide)⟩, ?_⟩
    intro request' _
    exact ⟨_, _, hgroups, hricher, _, _, rfl, rfl, .cons (.objects (by decide)) .nil⟩

/-- An answer without mail and dn is a failure, unless their plain names stand in for them. -/
theorem perform_by_plain_members :
    let p := make "sso.example" "directory.example" [] {}
    let s : Session := { accessToken := "t" }
    let plain := "\x7b\x22email\x22: \x22a@example\x22, \x22user\x22: \x22uid=a\x22\x7d"
    let o := p.perform .getProfile s 0 none { network := { script := [.told "\x7b\x7d"] } }
    let o' := p.perform .getProfile s 0 none { network := { script := [.told plain] } }
    Json.Agree ["mail", "dn"] (.obj []) (.obj [("email", .str "a@example"), ("user", .str "uid=a")]) ∧
      (Reply.told "\x7b\x7d").Shows (.obj []) ∧
      (Reply.told plain).Shows (.obj [("email", .str "a@example"), ("user", .str "uid=a")]) ∧
      o.1.session = s ∧ o.1.result = .error (.failure (Resolver.noEmail "")) ∧
      o'.1.session = { s with email := "a@example", user := "uid=a" } ∧ o'.1.result = .ok .nothing := by
  intro p s plain o o'
  refine ⟨.objects (by decide), Reply.shows_told (by decide +kernel), Reply.shows_told (by decide +kernel), ?_⟩
  decide +kernel

end Provider

end SignOn
