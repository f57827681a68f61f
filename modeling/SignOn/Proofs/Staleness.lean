import SignOn.Proofs.Run
import SignOn.Proofs.Membership
import SignOn.Provider.Setup

/-!
How old the group check can be that a refresh relies on. An expiry is only ever written after a check that let the user
in, and never lies more than a heartbeat after it.
-/

namespace SignOn.Provider

variable (p : Provider)

/-- Whether the directory of a step lists a group of the allow-list for the user key that the session has there. -/
def Step.Listed (st : Step) : Prop :=
  p.groupCheck.Lists st.found.user st.around.network

/-- Whether a step is a refresh whose group check has let the user in. -/
def Step.Passed (st : Step) : Prop :=
  st.call.op = .refresh ∧ isDue st.found st.call.now = true ∧
    (p.groupCheck.isAuthorized st.found.user st.call.timeout st.around).1 = .ok true

variable {p}

theorem Step.Passed.listed {st : Step} (h : st.Passed p) : st.Listed p :=
  ((p.groupCheck.isAuthorized_eq_true_iff _ _ _).1 h.2.2).2

/-- The expiry that a refresh writes is at most a heartbeat ahead of its clock. -/
theorem instant_le_of_nextExpiry? {now : Instant} {m : Moment} (h : nextExpiry? now = some m) :
    m.instant ≤ now + Moment.second := by
  have hm := Moment.instant_of_ofInstant? h
  have hcut := Int.emod_nonneg (now + heartbeat) (b := Moment.second) (by decide)
  rw [hm]
  exact Int.sub_le_self _ hcut

/-- A refresh token makes a refresh due unless the expiry lies ahead. -/
theorem ahead_of_not_isDue {s : Session} {now : Instant} (hr : s.refreshToken ≠ "") (hd : isDue s now = false) :
    ∃ m, s.expiresOn = some m ∧ now < m.instant := by
  simp only [isDue, Bool.and_eq_false_iff, bne_eq_false_iff_eq, hr, false_or, Bool.or_eq_false_iff] at hd
  obtain ⟨hsome, hahead⟩ := hd
  cases hm : s.expiresOn with
  | none => simp [hm] at hsome
  | some m =>
    refine ⟨m, rfl, ?_⟩
    have hnot : ¬m.instant ≤ now := fun hle => by
      have := (s.isExpired_iff now).2 ⟨m, hm, hle⟩
      simp [hahead] at this
    exact Int.not_le.1 hnot

/-- What holds of the steps so far and the session they lead to: the expiry is past for every call of the run, or at
most a heartbeat after a check that has let the user in. -/
def Anchored (p : Provider) (calls : List Call) (past : List Step) (s : Session) : Prop :=
  s.refreshToken ≠ "" ∧ ∀ m, s.expiresOn = some m →
    (∀ c ∈ calls, m.instant ≤ c.now) ∨
      ∃ check ∈ past, check.Passed p ∧ m.instant ≤ check.call.now + Moment.second

/-- A refresh leaves the expiry as it was, unless its check has let the user in. -/
theorem refresh_expiresOn (s : Session) (site : Site) (c : Call) (hop : c.op = .refresh) :
    (p.step s site c).outcome.session.expiresOn = s.expiresOn ∨
      (p.step s site c).Passed p ∧ ∃ m, nextExpiry? c.now = some m ∧
        (p.step s site c).outcome.session.expiresOn = some m := by
  have hs : (p.step s site c).outcome.session = (p.refresh s c.now c.timeout (c.enter site)).1.session := by
    rw [step_outcome, hop]
    rfl
  have h := p.refresh_course s c.now c.timeout (c.enter site)
  rw [hs]
  generalize p.refresh s c.now c.timeout (c.enter site) = o at h
  cases h with
  | @moved left expiry hd hc he =>
    refine .inr ⟨⟨hop, hd, ?_⟩, expiry, he, rfl⟩
    exact congrArg Prod.fst hc
  | _ => exact .inl rfl

/-- Every step keeps the expiry anchored. -/
theorem anchored_step {calls : List Call} {past : List Step} {s : Session} (h : Anchored p calls past s) (site : Site)
    (c : Call) : Anchored p calls (past ++ [p.step s site c]) (p.step s site c).outcome.session := by
  obtain ⟨hr, hexp⟩ := h
  have htoken : (p.step s site c).outcome.session.refreshToken = s.refreshToken :=
    (p.perform_tokens c.op s c.now c.timeout (c.enter site)).2
  have hkept : ∀ m, s.expiresOn = some m → (∀ c ∈ calls, m.instant ≤ c.now) ∨
      ∃ check ∈ past ++ [p.step s site c], check.Passed p ∧ m.instant ≤ check.call.now + Moment.second := by
    intro m hm
    rcases hexp m hm with hold | ⟨check, hin, hp, hle⟩
    · exact .inl hold
    · exact .inr ⟨check, List.mem_append_left _ hin, hp, hle⟩
  refine ⟨by rwa [htoken], ?_⟩
  by_cases hop : c.op = .refresh
  · rcases p.refresh_expiresOn s site c hop with hsame | ⟨hp, m, hm, hmoved⟩
    · rwa [hsame]
    · intro m' hm'
      obtain rfl : m = m' := Option.some.inj (hmoved.symm.trans hm')
      exact .inr ⟨_, by simp, hp, instant_le_of_nextExpiry? hm⟩
  · have hsame : (p.step s site c).outcome.session.expiresOn = s.expiresOn :=
      p.perform_expiresOn hop s c.now c.timeout (c.enter site)
    rwa [hsame]

/-- A refresh that returns has either been skipped or had its check let the user in. -/
theorem refresh_returns {st : Step} {site : Site} (hst : st = p.step st.found site st.call)
    (hop : st.call.op = .refresh) (hret : st.Returns) :
    isDue st.found st.call.now = false ∨ st.Passed p := by
  obtain ⟨v, hv⟩ := hret
  have ho : st.outcome.result =
      (p.refresh st.found st.call.now st.call.timeout (st.call.enter site)).1.result.map .truth := by
    rw [congrArg Step.outcome hst, step_outcome, hop]
    rfl
  have ha : st.around = st.call.enter site := congrArg Step.around hst
  have h := p.refresh_course st.found st.call.now st.call.timeout (st.call.enter site)
  rw [ho] at hv
  generalize p.refresh st.found st.call.now st.call.timeout (st.call.enter site) = o at h hv
  cases h with
  | skipped hd => exact .inl hd
  | moved hd hc =>
    refine .inr ⟨hop, hd, ?_⟩
    rw [ha]
    exact congrArg Prod.fst hc
  | unanswered | lost | beyond => cases hv

/-- Bounded staleness. A refresh that returns relies on a group check, its own or an earlier one, that let the session's
user in less than a second before. Hence once the directory lists no allowed group any more, no refresh returns a second
or more after the last check that passed. -/
theorem refresh_relies_on_recent_check (p : Provider) {s : Session} (site : Site) {calls : List Call}
    (hr : s.refreshToken ≠ "") (hclock : calls.Pairwise fun a b => a.now ≤ b.now)
    (hexp : ∀ m ∈ s.expiresOn, ∀ first ∈ calls.head?, m.instant ≤ first.now) :
    (∀ (before : List Step) (st : Step) (after : List Step), p.run s site calls = before ++ st :: after →
      st.call.op = .refresh → st.Returns →
        ∃ check ∈ before ++ [st], check.Passed p ∧ check.call.now ≤ st.call.now ∧
          st.call.now < check.call.now + Moment.second) ∧
    (∀ before later : List Step, p.run s site calls = before ++ later → (∀ st ∈ later, ¬st.Listed p) →
      ∀ st ∈ later, st.call.op = .refresh →
        (∀ check ∈ before, check.Passed p → check.call.now + Moment.second ≤ st.call.now) → ¬st.Returns) := by
  have hstart : Anchored p calls [] s := by
    refine ⟨hr, fun m hm => .inl fun c hc => ?_⟩
    cases calls with
    | nil => simp at hc
    | cons first rest =>
      have hfirst : m.instant ≤ first.now := hexp m hm first rfl
      rcases List.mem_cons.1 hc with rfl | hc
      · exact hfirst
      · exact Int.le_trans hfirst ((List.pairwise_cons.1 hclock).1 c hc)
  have hrecent : ∀ (before : List Step) (st : Step) (after : List Step), p.run s site calls = before ++ st :: after →
      st.call.op = .refresh → st.Returns →
        ∃ check ∈ before ++ [st], check.Passed p ∧ check.call.now ≤ st.call.now ∧
          st.call.now < check.call.now + Moment.second := by
    intro before st after hrun hop hret
    obtain ⟨⟨htoken, hanchor⟩, site', hst⟩ :=
      run_history (I := Anchored p calls) (fun past s site c _ h => anchored_step h site c) hstart hrun
    rcases refresh_returns hst hop hret with hskip | hp
    · obtain ⟨m, hm, hahead⟩ := ahead_of_not_isDue htoken hskip
      rcases hanchor m hm with hold | ⟨check, hin, hp, hle⟩
      · -- the expiry would be past for the call itself
        have hmem : st.call ∈ calls := by
          rw [← map_call_run p s site calls, hrun]
          simp
        exact absurd (hold _ hmem) (Int.not_le.2 hahead)
      · rw [List.nil_append] at hin
        exact ⟨check, List.mem_append_left _ hin, hp, now_le_of_run hclock hrun hin, Int.lt_of_lt_of_le hahead hle⟩
    · refine ⟨st, by simp, hp, Int.le_refl _, ?_⟩
      have hpos : (0 : Int) < Moment.second := by decide
      exact Int.lt_add_of_pos_right _ hpos
  refine ⟨hrecent, ?_⟩
  intro before later hrun hgone st hst hop hlast hret
  obtain ⟨former, after, rfl⟩ := List.append_of_mem hst
  obtain ⟨check, hin, hp, -, hlt⟩ := hrecent (before ++ former) st after (by simp [hrun]) hop hret
  have hsplit : check ∈ before ∨ check ∈ former ++ st :: after := by
    simp only [List.mem_append, List.mem_cons, List.not_mem_nil, or_false] at hin ⊢
    rcases hin with (hin | hin) | hin
    · exact .inl hin
    · exact .inr (.inl hin)
    · exact .inr (.inr (.inl hin))
  rcases hsplit with hbefore | hlater
  · exact absurd hlt (Int.not_lt.2 (hlast check hbefore hp))
  · exact hgone check hlater hp.listed

/-- A refresh that passes, one just before the next second that is skipped, and one at that second, when the directory
no longer knows the user. -/
theorem refresh_relies_on_recent_check_of_three :
    let p := make "sso.example" "directory.example" ["eng"] {}
    let s : Session := { refreshToken := "r", user := "uid=j.doe" }
    let known := [Reply.told "\x7b\x7d", Reply.told "[\x7b\x22name\x22: \x22eng\x22\x7d]"]
    let one : Call := { op := .refresh, now := 0, script := known }
    let two : Call := { op := .refresh, now := 999999 }
    let three : Call := { op := .refresh, now := 1000000, script := some [.answered ⟨404, [], []⟩] }
    let first := p.step s {} one
    let second := p.step first.outcome.session first.left two
    let third := p.step second.outcome.session second.left three
    second.Returns ∧ (∃ check ∈ [first, second], check.Passed p ∧ two.now < check.call.now + Moment.second) ∧
      ¬third.Returns := by
  intro p s known one two three first second third
  have hreturns : second.Returns := ⟨.truth false, by decide +kernel⟩
  have hskipped : isDue second.found second.call.now = false := by decide +kernel
  have hrefused : ¬(p.groupCheck.isAuthorized third.found.user none third.around).1 = .ok true := by decide +kernel
  have huser : third.found.user ≠ "" := by decide +kernel
  have hunlisted : ¬third.Listed p := fun h =>
    hrefused ((p.groupCheck.isAuthorized_eq_true_iff _ none _).2 ⟨huser, h⟩)
  have hclock : [one, two, three].Pairwise fun a b => a.now ≤ b.now := by decide
  have hrun : p.run s {} [one, two, three] = [first, second, third] := by
    simp only [run_cons, run_nil, first, second, third]
  obtain ⟨hrecent, hgone⟩ := refresh_relies_on_recent_check p (s := s) {} (by decide) hclock (by simp [s])
  refine ⟨hreturns, ?_, ?_⟩
  · obtain ⟨check, hin, hp, -, hlt⟩ := hrecent [first] second [third] hrun rfl hreturns
    exact ⟨check, hin, hp, hlt⟩
  · refine hgone [first, second] [third] hrun (by simpa using hunlisted) third (by simp) rfl ?_
    intro check hin hp
    simp only [List.mem_cons, List.not_mem_nil, or_false] at hin
    rcases hin with rfl | rfl
    · show (0 : Int) + 1000000 ≤ 1000000
      decide
    · exact absurd hp.2.1 (by rw [hskipped]; decide)

end SignOn.Provider
