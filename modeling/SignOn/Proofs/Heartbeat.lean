import SignOn.Proofs.Expiry
import SignOn.Proofs.Failures
import SignOn.Proofs.Staleness

/-!
The heartbeat of a refresh. The expiry that it writes is the last whole second of universal time that is strictly ahead
of the clock by a second at most, wherever in the calendar the clock stands. So a refresh rests until that second has
come.
-/

namespace SignOn.Provider

/-- An instant cut to the whole second. -/
def wholeSecond (t : Instant) : Instant :=
  t - t % 1000000

/-- The cut takes less than a second off, also before the year 1. -/
theorem wholeSecond_spec (t : Int) :
    wholeSecond t % 1000000 = 0 ∧ wholeSecond t ≤ t ∧ t < wholeSecond t + 1000000 := by
  show (t - t % 1000000) % 1000000 = 0 ∧ t - t % 1000000 ≤ t ∧ t < t - t % 1000000 + 1000000
  omega

/-- Whether a refresh has nothing to do: there is no refresh token, or the expiry denotes an instant ahead of the
clock. -/
def Rests (s : Session) (now : Instant) : Prop :=
  s.refreshToken = "" ∨ ∃ expiry t, s.expiresOn = some expiry ∧ expiry.Denotes t ∧ now < t

theorem isDue_eq_false_iff (s : Session) (now : Instant) : isDue s now = false ↔ Rests s now := by
  by_cases hr : s.refreshToken = ""
  · have hskip : isDue s now = false := by simp [isDue, hr]
    exact iff_of_true hskip (.inl hr)
  · constructor
    · intro hd
      obtain ⟨expiry, he, hahead⟩ := ahead_of_not_isDue hr hd
      exact .inr ⟨expiry, expiry.instant, he, expiry.denotes_instant, hahead⟩
    · rintro (htoken | ⟨expiry, t, he, ht, hahead⟩)
      · exact absurd htoken hr
      · have hexpired : s.isExpired now = false := by
          rw [(expiry.denotes_iff t).1 ht] at hahead
          simpa [Session.isExpired, he] using hahead
        simp [isDue, he, hexpired]

theorem isDue_eq_true_iff (s : Session) (now : Instant) : isDue s now = true ↔ ¬Rests s now := by
  rw [← isDue_eq_false_iff, Bool.not_eq_false]

instance (s : Session) (now : Instant) : Decidable (Rests s now) :=
  decidable_of_iff _ (isDue_eq_false_iff s now)

/-- A refresh that rests sends nothing and changes nothing. -/
theorem refresh_of_rests (p : Provider) {s : Session} {now : Instant} (h : Rests s now) (timeout : Option Binary64)
    (site : Site) : p.refresh s now timeout site = (⟨s, .ok false⟩, site) := by
  have hd := (isDue_eq_false_iff s now).2 h
  simp only [refresh, hd, Bool.false_eq_true, ↓reduceIte, Effect.pure_apply]

/-- The expiry that is written is on a clock of universal time, which shows the clock a heartbeat later, cut to the
whole second. -/
theorem nextExpiry?_spec {now : Instant} {expiry : Moment} (h : nextExpiry? now = some expiry) :
    expiry.offset = some 0 ∧ expiry.Denotes (wholeSecond (now + 1000000)) := by
  have hinstant := Moment.instant_of_ofInstant? h
  obtain ⟨-, hoffset⟩ := Moment.wall_of_make? h
  exact ⟨hoffset, (expiry.denotes_iff _).2 hinstant.symm⟩

/-- A refresh that does not rest asks what its group check asks, and makes of the result what stands here. -/
theorem refresh_of_not_rests (p : Provider) {s : Session} {now : Instant} (h : ¬Rests s now) (timeout : Option Binary64)
    (site : Site) :
    (p.refresh s now timeout site).2.sent = (p.validateGroup s timeout site).2.sent ∧
      (p.refresh s now timeout site).2.network = (p.validateGroup s timeout site).2.network ∧
      (p.refresh s now timeout site).1 =
        match (p.validateGroup s timeout site).1, nextExpiry? now with
        | .error trouble, _ => ⟨s, .error trouble⟩
        | .ok false, _ => ⟨s, .error (.failure (.membershipLost s.email s.user))⟩
        | .ok true, none => ⟨s, .error (.broken .overflow "date value out of range")⟩
        | .ok true, some expiry => ⟨extended s expiry, .ok false⟩ := by
  have hd := (isDue_eq_true_iff s now).2 h
  have hcourse := p.refresh_course s now timeout site
  generalize p.refresh s now timeout site = o at hcourse
  cases hcourse with
  | skipped hd' => exact absurd (hd'.symm.trans hd) (by simp)
  | unanswered _ hc => simp [hc]
  | lost _ hc => simp [hc]
  | beyond _ hc he => simp [hc, he]
  | moved _ hc he => simp [hc, he]

/-- A refresh whose check lets the user in writes the next expiry and nothing else. -/
theorem refresh_of_authorized (p : Provider) {s : Session} {now : Instant} {timeout : Option Binary64} {site : Site}
    (hstart : 0 ≤ now + 1000000) (hend : now + 1000000 < Moment.span) (hdue : ¬Rests s now)
    (hcheck : (p.validateGroup s timeout site).1 = .ok true) :
    ∃ expiry, nextExpiry? now = some expiry ∧
      (p.refresh s now timeout site).1 = ⟨{ s with expiresOn := some expiry }, .ok false⟩ := by
  obtain ⟨expiry, he⟩ := exists_nextExpiry? hstart hend
  obtain ⟨-, -, hresult⟩ := p.refresh_of_not_rests hdue timeout site
  rw [hcheck, he] at hresult
  exact ⟨expiry, he, hresult⟩

/-- The arithmetic of the heartbeat. Let a clock be of any known distance from universal time, and universal time be
such that it can be shown a second later. A refresh that is due and whose check lets the user in moves the expiry to a
whole second strictly ahead of the clock, by a second at most. At the same instant the session is then not expired, and
another refresh does nothing; every clock a second later or more finds it expired. -/
theorem refresh_heartbeat (p : Provider) {s : Session} {clock : Moment} {now : Instant} {timeout : Option Binary64}
    {site : Site} (haware : clock.isNaive = false) (hnow : clock.Denotes now) (hstart : 0 ≤ now + 1000000)
    (hend : now + 1000000 < Moment.span) (hdue : ¬Rests s now)
    (hcheck : (p.validateGroup s timeout site).1 = .ok true) :
    ∃ (expiry : Moment) (t : Instant),
      (p.refresh s now timeout site).1 = ⟨{ s with expiresOn := some expiry }, .ok false⟩ ∧
      expiry.offset = some 0 ∧ expiry.Denotes t ∧ t % 1000000 = 0 ∧ now < t ∧ t ≤ now + 1000000 ∧
      ({ s with expiresOn := some expiry } : Session).isExpiredAt clock = .ok false ∧
      (∀ timeout' site', p.refresh { s with expiresOn := some expiry } now timeout' site' =
        (⟨{ s with expiresOn := some expiry }, .ok false⟩, site')) ∧
      ∀ (later : Moment) (u : Instant), later.isNaive = false → later.Denotes u → now + 1000000 ≤ u →
        ({ s with expiresOn := some expiry } : Session).isExpiredAt later = .ok true := by
  obtain ⟨expiry, he, hrefresh⟩ := p.refresh_of_authorized hstart hend hdue hcheck
  obtain ⟨hoffset, ht⟩ := nextExpiry?_spec he
  obtain ⟨hwhole, hbound, hcut⟩ := wholeSecond_spec (now + 1000000)
  -- the cut takes off less than the second that was put on
  have hahead : now < wholeSecond (now + 1000000) := Int.lt_of_add_lt_add_right hcut
  refine ⟨expiry, _, hrefresh, hoffset, ht, hwhole, hahead, hbound, ?_, ?_, ?_⟩
  · rw [Session.isExpiredAt_of_denotes rfl ht haware hnow]
    exact congrArg Except.ok (decide_eq_false (Int.not_le.2 hahead))
  · intro timeout' site'
    exact p.refresh_of_rests (.inr ⟨expiry, _, rfl, ht, hahead⟩) timeout' site'
  · intro later u hlater hu hle
    rw [Session.isExpiredAt_of_denotes rfl ht hlater hu]
    exact congrArg Except.ok (decide_eq_true (Int.le_trans hbound hle))

/-- A microsecond before the leap day of 2024 in universal time, on a clock that is five hours and a half ahead: the
expiry is the start of the leap day. -/
theorem refresh_heartbeat_of_leap_day :
    let p := make "sso.example" "directory.example" ["eng"] {}
    let s : Session := { refreshToken := "r", user := "uid=j.doe" }
    let site : Site :=
      { network := { script := [.told "\x7b\x7d", .told "[\x7b\x22name\x22: \x22eng\x22\x7d]"] } }
    let leapDay : Instant := (Date.mk 2024 2 29).dayNumber * Moment.day
    ∃ clock expiry : Moment, Moment.ofIso? "2024-02-29T05:29:59.999999+05:30" = some clock ∧
      (p.refresh s clock.instant none site).1 = ⟨{ s with expiresOn := some expiry }, .ok false⟩ ∧
      expiry.Denotes leapDay ∧ ({ s with expiresOn := some expiry } : Session).isExpiredAt clock = .ok false := by
  intro p s site leapDay
  let clock : Moment := ⟨63844781399999999, some 19800000000, by decide, by decide⟩
  have hnow : clock.instant = leapDay - 1 := by decide
  have hstart : 0 ≤ clock.instant + 1000000 := by decide
  have hend : clock.instant + 1000000 < Moment.span := by decide
  have hdue : ¬Rests s clock.instant := by
    rintro (htoken | ⟨expiry, t, he, -⟩)
    · exact absurd htoken (by decide)
    · cases he
  have hcheck : (p.validateGroup s none site).1 = .ok true := by decide +kernel
  obtain ⟨expiry, t, hrefresh, -, ht, hwhole, hahead, hbound, hfresh, -⟩ :=
    p.refresh_heartbeat rfl clock.denotes_instant hstart hend hdue hcheck
  have hleap : leapDay % 1000000 = 0 := by decide
  have honly : ∀ t u : Int, t % 1000000 = 0 → u % 1000000 = 0 → u - 1 < t → t ≤ u - 1 + 1000000 → t = u := by
    omega
  rw [hnow] at hahead hbound
  have hmidnight : t = leapDay := honly t leapDay hwhole hleap hahead hbound
  rw [hmidnight] at ht
  exact ⟨clock, expiry, by decide +kernel, hrefresh, ht, hfresh⟩

end SignOn.Provider
