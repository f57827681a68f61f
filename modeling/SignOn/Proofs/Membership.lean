import SignOn.Proofs.Courses
import SignOn.Proofs.Replies

/-!
The group check, seen from the network: which requests it sends, and when it lets a user in.
-/

namespace SignOn

namespace Directory

variable {α : Type} (d : Directory) (path : String) (target : Target α) (timeout : Option Binary64) (site : Site)

theorem fetch_of_request {request : Request} (hr : d.request path [] = .ok request) :
    d.fetch path target none timeout site =
      Exchange.fetch request target "directory" (timeout.getD d.timeout) (site.noted [lookupEntry path]) := by
  have h := d.fetch_course path target timeout site
  generalize d.fetch path target none timeout site = o at h
  cases h with
  | noAddress hn => exact absurd (hn.symm.trans hr) (by simp)
  | judged hj =>
    obtain rfl := Except.ok.inj (hj.symm.trans hr)
    rfl

theorem fetch_of_no_request {trouble : Trouble} (hr : d.request path [] = .error trouble) :
    (d.fetch path target none timeout site).1 = .error trouble := by
  have h := d.fetch_course path target timeout site
  generalize d.fetch path target none timeout site = o at h
  cases h with
  | noAddress hn => exact congrArg Except.error (Except.error.inj (hn.symm.trans hr))
  | judged hj => exact absurd (hj.symm.trans hr) (by simp)

theorem fetch_eq_ok_iff (a : α) :
    (d.fetch path target none timeout site).1 = .ok a ↔
      ∃ request, d.request path [] = .ok request ∧ (site.network.ask request).1.Tells target a := by
  cases hr : d.request path [] with
  | error trouble =>
    rw [d.fetch_of_no_request path target timeout site hr]
    simp
  | ok request =>
    rw [d.fetch_of_request path target timeout site hr, Exchange.fetch_apply]
    simp [Exchange.judge_eq_ok_iff]

theorem fetch_network {request : Request} (hr : d.request path [] = .ok request) :
    (d.fetch path target none timeout site).2.network = (site.network.ask request).2 := by
  rw [d.fetch_of_request path target timeout site hr, Exchange.fetch_apply]
  simp

theorem fetch_sent {request : Request} (hr : d.request path [] = .ok request) :
    (d.fetch path target none timeout site).2.sent = site.sent ++ [⟨request, timeout.getD d.timeout⟩] := by
  rw [d.fetch_of_request path target timeout site hr, Exchange.fetch_apply]
  simp

end Directory

namespace GroupCheck

variable (c : GroupCheck) (userKey : Text)

/-- The request for a user's entry. There is none for a key that has no bytes. -/
def entryRequest : Except Trouble Request := do
  c.directory.request (Directory.entryPath (← userKey.encodable)) []

/-- The request for a user's groups. -/
def groupsRequest : Except Trouble Request := do
  c.directory.request (Directory.groupsPath (← userKey.encodable)) []

theorem entryRequest_whole (key : String) :
    c.entryRequest key = c.directory.request (Directory.entryPath key) [] := rfl

theorem groupsRequest_whole (key : String) :
    c.groupsRequest key = c.directory.request (Directory.groupsPath key) [] := rfl

theorem entryRequest_of_error {trouble : Trouble} (hk : userKey.encodable = .error trouble) :
    c.entryRequest userKey = .error trouble := by
  rw [entryRequest, hk]
  rfl

/-- A key that can be looked up holds no halves. -/
theorem exists_key_of_entryRequest {request : Request} (h : c.entryRequest userKey = .ok request) :
    ∃ key : String, userKey = key := by
  cases userKey with
  | whole key => exact ⟨key, rfl⟩
  | torn front half back => exact absurd (h.symm.trans (c.entryRequest_of_error _ rfl)) (by simp)

/-- Whether the directory behind a network knows a user and lists a group that is let in. -/
def Lists (n : Network) : Prop :=
  ∃ entryRequest groupsRequest entry groups,
    c.entryRequest userKey = .ok entryRequest ∧ c.groupsRequest userKey = .ok groupsRequest ∧
      (n.ask entryRequest).1.Tells .directoryEntry entry ∧
      ((n.ask entryRequest).2.ask groupsRequest).1.Tells .groups groups ∧ ∃ g ∈ groups, g.name ∈ c.allowed

theorem granting?_isSome_iff (groups : List GroupInfo) :
    (∃ group, c.granting? groups = some group) ↔ ∃ g ∈ groups, g.name ∈ c.allowed := by
  rw [← Option.isSome_iff_exists]
  simp [granting?]

variable (timeout : Option Binary64) (site : Site)

/-- The profile of a user is what the two replies tell. -/
theorem fetchProfile_eq_ok_iff (entry : DirectoryEntry) (groups : List GroupInfo) :
    (c.fetchProfile userKey timeout site).1 = .ok (entry, groups) ↔
      ∃ entryRequest groupsRequest,
        c.entryRequest userKey = .ok entryRequest ∧ c.groupsRequest userKey = .ok groupsRequest ∧
          (site.network.ask entryRequest).1.Tells .directoryEntry entry ∧
          ((site.network.ask entryRequest).2.ask groupsRequest).1.Tells .groups groups := by
  have h := c.fetchProfile_lookups userKey timeout site
  generalize c.fetchProfile userKey timeout site = o at h
  cases h with
  | torn hk =>
    refine iff_of_false (by simp) ?_
    rintro ⟨entryRequest, -, hr, -⟩
    exact absurd ((c.entryRequest_of_error userKey hk).symm.trans hr) (by simp)
  | @noEntry key _ _ hk he =>
    subst hk
    refine iff_of_false (by simp) ?_
    rintro ⟨entryRequest, -, hr, -, ht, -⟩
    have := (c.directory.fetch_eq_ok_iff (Directory.entryPath key) .directoryEntry timeout site entry).2
      ⟨entryRequest, hr, ht⟩
    rw [fetchEntry] at he
    simp [he] at this
  | @noGroups key entry' _ between _ hk he hg =>
    subst hk
    refine iff_of_false (by simp) ?_
    rintro ⟨entryRequest, groupsRequest, hr, hr', -, ht⟩
    have hn := c.directory.fetch_network (Directory.entryPath key) .directoryEntry timeout site hr
    rw [fetchEntry] at he
    rw [he] at hn
    have := (c.directory.fetch_eq_ok_iff (Directory.groupsPath key) .groups timeout between groups).2
      ⟨groupsRequest, hr', by rw [hn]; exact ht⟩
    rw [fetchGroups] at hg
    simp [hg] at this
  | @told key entry' groups' between _ hk he hg =>
    subst hk
    rw [fetchEntry] at he
    rw [fetchGroups] at hg
    obtain ⟨entryRequest, hr, ht⟩ :=
      (c.directory.fetch_eq_ok_iff (Directory.entryPath key) .directoryEntry timeout site entry').1 (by rw [he])
    obtain ⟨groupsRequest, hr', ht'⟩ :=
      (c.directory.fetch_eq_ok_iff (Directory.groupsPath key) .groups timeout between groups').1 (by rw [hg])
    have hn := c.directory.fetch_network (Directory.entryPath key) .directoryEntry timeout site hr
    rw [he] at hn
    rw [hn] at ht'
    constructor
    · intro heq
      cases heq
      exact ⟨entryRequest, groupsRequest, hr, hr', ht, ht'⟩
    · rintro ⟨e, g, her, hgr, het, hgt⟩
      obtain rfl := Except.ok.inj (hr.symm.trans her)
      obtain rfl := Except.ok.inj (hr'.symm.trans hgr)
      rw [het.unique ht, hgt.unique ht']

/-- A user is let in exactly when the directory lists a group of the allow-list. -/
theorem isAuthorized_eq_true_iff :
    (c.isAuthorized userKey timeout site).1 = .ok true ↔ userKey ≠ "" ∧ c.Lists userKey site.network := by
  have hlists : c.Lists userKey site.network ↔
      ∃ entry groups group, (c.fetchProfile userKey timeout site).1 = .ok (entry, groups) ∧
        c.granting? groups = some group := by
    constructor
    · rintro ⟨e, g, entry, groups, he, hg, hte, htg, hin⟩
      obtain ⟨group, hgroup⟩ := (c.granting?_isSome_iff groups).2 hin
      exact ⟨entry, groups, group, (c.fetchProfile_eq_ok_iff userKey timeout site entry groups).2
        ⟨e, g, he, hg, hte, htg⟩, hgroup⟩
    · rintro ⟨entry, groups, group, hp, hgroup⟩
      obtain ⟨e, g, he, hg, hte, htg⟩ := (c.fetchProfile_eq_ok_iff userKey timeout site entry groups).1 hp
      exact ⟨e, g, entry, groups, he, hg, hte, htg, (c.granting?_isSome_iff groups).1 ⟨group, hgroup⟩⟩
  rw [hlists]
  have h := c.isAuthorized_course userKey timeout site
  generalize c.isAuthorized userKey timeout site = o at h
  cases h with
  | noKey hk => simp [hk]
  | granted hk hl hg => exact iff_of_true rfl ⟨hk, _, _, _, by rw [hl], hg⟩
  | refused hk hl hg => simp [hl, hg]
  | cancelled hk hl hf | denied hk hl hf | broken hk hl ht => simp [hl]

/-- A group check sends what its lookups send. -/
theorem isAuthorized_sent_eq (hk : userKey ≠ "") :
    (c.isAuthorized userKey timeout site).2.sent = (c.fetchProfile userKey timeout site).2.sent := by
  have h := c.isAuthorized_course userKey timeout site
  generalize c.isAuthorized userKey timeout site = o at h
  cases h with
  | noKey hk' => exact absurd hk' hk
  | granted hk hl | refused hk hl | cancelled hk hl | denied hk hl | broken hk hl => simp [hl]

/-- A key with halves is not looked up anywhere. -/
theorem isAuthorized_sent_of_torn (hk : userKey.isWhole = false) :
    (c.isAuthorized userKey timeout site).2.sent = site.sent := by
  cases userKey with
  | whole key => cases hk
  | torn front half back => exact c.isAuthorized_sent_eq _ timeout site (by simp)

/-- The requests of a group check: that for the entry, and once the entry is told, that for the groups. -/
theorem isAuthorized_sent {entryRequest groupsRequest : Request} (hk : userKey ≠ "")
    (he : c.entryRequest userKey = .ok entryRequest) (hg : c.groupsRequest userKey = .ok groupsRequest) :
    (c.isAuthorized userKey timeout site).2.sent = site.sent ++
        [⟨entryRequest, timeout.getD c.directory.timeout⟩] ∨
      (∃ entry, (site.network.ask entryRequest).1.Tells .directoryEntry entry) ∧
        (c.isAuthorized userKey timeout site).2.sent = site.sent ++
          [⟨entryRequest, timeout.getD c.directory.timeout⟩, ⟨groupsRequest, timeout.getD c.directory.timeout⟩] := by
  have h := c.fetchProfile_lookups userKey timeout site
  rw [c.isAuthorized_sent_eq userKey timeout site hk]
  generalize c.fetchProfile userKey timeout site = o at h
  cases h with
  | torn hk => exact absurd ((c.entryRequest_of_error userKey hk).symm.trans he) (by simp)
  | @noEntry key _ _ hk hf =>
    subst hk
    have hsent := c.directory.fetch_sent (Directory.entryPath key) .directoryEntry timeout site he
    rw [fetchEntry] at hf
    exact .inl (by simpa [hf] using hsent)
  | @noGroups key entry _ between _ hk hf hf' | @told key entry _ between _ hk hf hf' =>
    subst hk
    have hsent := c.directory.fetch_sent (Directory.entryPath key) .directoryEntry timeout site he
    rw [fetchEntry] at hf
    rw [fetchGroups] at hf'
    have hsent' := c.directory.fetch_sent (Directory.groupsPath key) .groups timeout between hg
    obtain ⟨request, hr, ht⟩ :=
      (c.directory.fetch_eq_ok_iff (Directory.entryPath key) .directoryEntry timeout site entry).1 (by rw [hf])
    obtain rfl := Except.ok.inj (he.symm.trans hr)
    rw [hf] at hsent
    rw [hf', hsent] at hsent'
    exact .inr ⟨⟨entry, ht⟩, by simpa using hsent'⟩

end GroupCheck

end SignOn
