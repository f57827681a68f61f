import SignOn.Proofs.Days
import SignOn.Session

/-!
Expiry as a comparison of instants. What a moment denotes is counted in calendar days, so that neither the day numbers
of the clock nor its wall reading stand in the specification; an expiry and a clock are compared by what they denote,
however they are spelled.
-/

namespace SignOn

namespace Date

theorem daysBeforeYear_last : daysBeforeYear 10000 = days := by decide

/-- The dates of the years 1 to 9999 are those that have a place among the days. -/
theorem dayNumber_lt_days {d : Date} (h : d.Exists) (hy : 1 ≤ d.year) (hle : d.year ≤ 9999) : d.dayNumber < days := by
  rw [← daysBeforeYear_last]
  exact Nat.lt_of_lt_of_le (dayNumber_lt_nextYear h hy) (daysBeforeYear_mono (Nat.succ_pos _) (Nat.succ_le_succ hle))

end Date

namespace Moment

/-- Whether a clock shows a time of day. -/
def Clock.Exists (c : Clock) : Prop :=
  c.hour < 24 ∧ c.minute < 60 ∧ c.second < 60 ∧ c.micro < 1000000

/-- Whether a moment denotes an instant. Its clock shows a time of day on the date that comes some days after the first
day of the year 1; the instant is as many days and as much time after the start of that year, less the microseconds that
the clock is ahead of universal time. A clock of unknown distance is taken to show universal time. -/
def Denotes (m : Moment) (t : Instant) : Prop :=
  ∃ (days : Nat) (clock : Clock),
    ofParts? (Date.after days) clock.hour clock.minute clock.second clock.micro m.offset = some m ∧
      t = (days * 86400 + clock.hour * 3600 + clock.minute * 60 + clock.second) * 1000000 + clock.micro -
        m.offset.getD 0

theorem wall_of_ofParts? {date : Date} {hour minute second micro : Nat} {offset : Option Int} {m : Moment}
    (h : ofParts? date hour minute second micro offset = some m) :
    m.wall = date.dayNumber * day + ((hour * 60 + minute) * 60 + second) * Moment.second + micro ∧
      m.offset = offset := by
  unfold ofParts? at h
  split at h
  · obtain ⟨hwall, hoffset⟩ := wall_of_make? h
    exact ⟨Int.ofNat.inj hwall, hoffset⟩
  · cases h

/-- Every date of the years 1 to 9999 and every time of day can be read off a clock that is less than a day ahead or
behind, or of unknown distance. -/
theorem exists_ofParts? {date : Date} {clock : Clock} {offset : Option Int} (hd : date.Exists) (hy : 1 ≤ date.year)
    (hle : date.year ≤ 9999) (hc : clock.Exists) (ho : ∀ ahead ∈ offset, ahead.natAbs < day) :
    ∃ m, ofParts? date clock.hour clock.minute clock.second clock.micro offset = some m ∧ m.offset = offset := by
  obtain ⟨hhour, hminute, hsecond, hmicro⟩ := hc
  have hparts : date.Exists ∧ 1 ≤ date.year ∧ clock.hour < 24 ∧ clock.minute < 60 ∧ clock.second < 60 ∧
      clock.micro < second := ⟨hd, hy, hhour, hminute, hsecond, hmicro⟩
  have hday := Date.dayNumber_lt_days hd hy hle
  have hwall : date.dayNumber * day + ((clock.hour * 60 + clock.minute) * 60 + clock.second) * second + clock.micro <
      span := by
    simp only [span, day, second] at hday ⊢
    omega
  have hmade : ∃ m, ofParts? date clock.hour clock.minute clock.second clock.micro offset = some m := by
    rw [ofParts?, if_pos hparts]
    exact ⟨_, dif_pos ⟨Int.natCast_nonneg _, hwall, ho⟩⟩
  obtain ⟨m, hm⟩ := hmade
  exact ⟨m, hm, (wall_of_ofParts? hm).2⟩

/-- A moment is read off its clock on the date that comes after as many days as have passed. -/
theorem ofParts?_after (m : Moment) :
    ofParts? (Date.after (m.wall / day)) (clockOf m.secondOfDay m.micro).hour (clockOf m.secondOfDay m.micro).minute
      (clockOf m.secondOfDay m.micro).second (clockOf m.secondOfDay m.micro).micro m.offset = some m := by
  obtain ⟨hnumber, hexists, hpos, -⟩ := m.date_spec
  have hdate : Date.after (m.wall / day) = m.date := by
    rw [← hnumber]
    exact Date.after_dayNumber hexists hpos
  have hplace := m.place_clockOf
  rw [hdate]
  unfold place at hplace
  split at hplace
  · next m' hm =>
    obtain rfl := Except.ok.inj hplace
    exact hm
  · cases hplace

theorem wall_eq_clockOf (m : Moment) :
    m.wall = (m.wall / day * 86400 + (clockOf m.secondOfDay m.micro).hour * 3600 +
      (clockOf m.secondOfDay m.micro).minute * 60 + (clockOf m.secondOfDay m.micro).second) * 1000000 +
        (clockOf m.secondOfDay m.micro).micro := by
  simp only [clockOf, secondOfDay, micro, day, second]
  omega

/-- A moment denotes its instant and no other. -/
theorem denotes_iff (m : Moment) (t : Instant) : m.Denotes t ↔ t = m.instant := by
  constructor
  · rintro ⟨days, clock, hm, rfl⟩
    obtain ⟨-, -, hnumber⟩ := Date.after_spec days
    obtain ⟨hwall, -⟩ := wall_of_ofParts? hm
    rw [hnumber] at hwall
    rw [instant, hwall]
    simp only [day, second]
    push_cast
    ring
  · -- the days that the clock has passed are those that the specification counts
    rintro rfl
    refine ⟨m.wall / day, clockOf m.secondOfDay m.micro, m.ofParts?_after, ?_⟩
    have hwall := congrArg Int.ofNat m.wall_eq_clockOf
    simp only [Int.ofNat_eq_natCast] at hwall
    rw [instant, hwall]
    push_cast
    ring

theorem denotes_instant (m : Moment) : m.Denotes m.instant :=
  (m.denotes_iff _).2 rfl

end Moment

namespace Session

/-- At a clock of known distance an expiry is compared with what the clock denotes, never with an error. -/
theorem isExpiredAt_of_denotes {s : Session} {expiry now : Moment} {t u : Instant} (hs : s.expiresOn = some expiry)
    (ht : expiry.Denotes t) (hnow : now.isNaive = false) (hu : now.Denotes u) :
    s.isExpiredAt now = .ok (decide (t ≤ u)) := by
  rw [(expiry.denotes_iff t).1 ht, (now.denotes_iff u).1 hu]
  simp only [isExpiredAt, isExpired, hs, hnow, Bool.false_eq_true, and_false, ↓reduceIte]

end Session

end SignOn
