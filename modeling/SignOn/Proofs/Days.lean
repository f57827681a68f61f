import SignOn.Proofs.Clocks

/-!
The calendar day by day. From the first day of the year 1 on, going to the next day passes through the lengths of months
and years, and the days that are passed are the day number. Dates stand in the order of year, month and day.
-/

namespace SignOn.Date

/-- The day after a date. -/
def next (d : Date) : Date :=
  if d.day < daysInMonth d.year d.month then ⟨d.year, d.month, d.day + 1⟩
  else if d.month < 12 then ⟨d.year, d.month + 1, 1⟩
  else ⟨d.year + 1, 1, 1⟩

/-- The date that is some days after the first day of the year 1. -/
def after : Nat → Date
  | 0 => ⟨1, 1, 1⟩
  | n + 1 => (after n).next

/-- Whether a date comes before another by year, month and day. -/
def Before (d e : Date) : Prop :=
  d.year < e.year ∨ d.year = e.year ∧ (d.month < e.month ∨ d.month = e.month ∧ d.day < e.day)

theorem daysInMonth_pos (year : Nat) {month : Nat} (h : 1 ≤ month) (hle : month ≤ 12) : 1 ≤ daysInMonth year month := by
  have hlength : month - 1 < (monthLengths year).length := by
    show month - 1 < 12
    omega
  have hmem := List.getElem_mem hlength
  rw [daysInMonth, List.getD_eq_getElem?_getD, List.getElem?_eq_getElem hlength, Option.getD_some]
  generalize (monthLengths year)[month - 1] = length at hmem ⊢
  simp only [monthLengths, List.mem_cons, List.not_mem_nil, or_false] at hmem
  split at hmem <;> omega

/-- The days before a month and those of the month are the days before the next one. -/
theorem daysBeforeMonth_succ (year : Nat) {month : Nat} (h : 1 ≤ month) (hle : month ≤ 12) :
    daysBeforeMonth year (month + 1) = daysBeforeMonth year month + daysInMonth year month := by
  have hlength : month - 1 < (monthLengths year).length := by
    show month - 1 < 12
    omega
  have hmonth : month + 1 - 1 = month - 1 + 1 := by omega
  simp only [daysBeforeMonth, daysInMonth, ← List.sum_eq_foldl_nat, hmonth, List.take_succ_eq_append_getElem hlength,
    List.sum_append, List.sum_singleton, List.getD_eq_getElem?_getD, List.getElem?_eq_getElem hlength, Option.getD_some]

theorem daysBeforeMonth_mono (year : Nat) {month later : Nat} (h : month ≤ later) :
    daysBeforeMonth year month ≤ daysBeforeMonth year later := by
  obtain ⟨rest, hrest⟩ : (monthLengths year).take (month - 1) <+: (monthLengths year).take (later - 1) :=
    List.take_prefix_take_left (Nat.sub_le_sub_right h 1)
  simp only [daysBeforeMonth, ← List.sum_eq_foldl_nat, ← hrest, List.sum_append]
  exact Nat.le_add_right _ _

/-- The days before the month that would follow December are those of the year. -/
theorem daysBeforeMonth_thirteen (year : Nat) : daysBeforeMonth year 13 = if isLeap year then 366 else 365 := by
  rw [← sum_monthLengths, daysBeforeMonth, ← List.sum_eq_foldl_nat]
  rfl

theorem daysBeforeYear_succ {year : Nat} (h : 1 ≤ year) :
    daysBeforeYear (year + 1) = daysBeforeYear year + if isLeap year then 366 else 365 := by
  have hfour : year / 4 = (year - 1) / 4 + if year % 4 = 0 then 1 else 0 := by split <;> omega
  have hhundred : year / 100 = (year - 1) / 100 + if year % 100 = 0 then 1 else 0 := by split <;> omega
  have hcycle : year / 400 = (year - 1) / 400 + if year % 400 = 0 then 1 else 0 := by split <;> omega
  have hpast : (year - 1) / 100 ≤ (year - 1) * 365 := by omega
  -- years are common, leap, a common century or the leap century of a cycle
  have hkind : year % 4 ≠ 0 ∧ year % 100 ≠ 0 ∧ year % 400 ≠ 0 ∨ year % 4 = 0 ∧ year % 100 ≠ 0 ∧ year % 400 ≠ 0 ∨
      year % 4 = 0 ∧ year % 100 = 0 ∧ year % 400 ≠ 0 ∨ year % 4 = 0 ∧ year % 100 = 0 ∧ year % 400 = 0 := by omega
  simp only [daysBeforeYear, Nat.add_sub_cancel, hfour, hhundred, hcycle, isLeap_iff]
  clear hfour hhundred hcycle
  rcases hkind with ⟨h4, h100, h400⟩ | ⟨h4, h100, h400⟩ | ⟨h4, h100, h400⟩ | ⟨h4, h100, h400⟩
  · simp only [h4, h100, h400, if_false, false_and]
    omega
  · simp only [h4, h100, h400, if_true, if_false, ne_eq, not_false_eq_true, true_or, true_and]
    omega
  · simp only [h4, h100, h400, if_true, if_false, ne_eq, not_true_eq_false, or_false, and_false]
    omega
  · simp only [h4, h100, h400, if_true, or_true, true_and]
    omega

theorem daysBeforeYear_mono {year later : Nat} (hpos : 1 ≤ year) (h : year ≤ later) :
    daysBeforeYear year ≤ daysBeforeYear later := by
  induction later, h using Nat.le_induction with
  | base => exact Nat.le_refl _
  | succ later hle ih =>
    rw [daysBeforeYear_succ (Nat.le_trans hpos hle)]
    exact Nat.le_trans ih (Nat.le_add_right _ _)

/-- A day of a month comes before the next month. -/
theorem day_lt_of_exists {d : Date} (h : d.Exists) :
    daysBeforeMonth d.year d.month + (d.day - 1) < daysBeforeMonth d.year (d.month + 1) := by
  obtain ⟨hmonth, hlast, hday, hlength⟩ := h
  rw [daysBeforeMonth_succ d.year hmonth hlast]
  omega

/-- A day of a year comes before the next year. -/
theorem dayNumber_lt_nextYear {d : Date} (h : d.Exists) (hy : 1 ≤ d.year) :
    d.dayNumber < daysBeforeYear (d.year + 1) := by
  have hday := day_lt_of_exists h
  have hyear : daysBeforeMonth d.year (d.month + 1) ≤ daysBeforeMonth d.year 13 :=
    daysBeforeMonth_mono d.year (Nat.succ_le_succ h.2.1)
  rw [daysBeforeMonth_thirteen] at hyear
  rw [daysBeforeYear_succ hy, dayNumber]
  omega

theorem dayNumber_lt_of_before {d e : Date} (hd : d.Exists) (hy : 1 ≤ d.year) (h : d.Before e) (he : 1 ≤ e.day) :
    d.dayNumber < e.dayNumber := by
  rcases h with hyear | ⟨hyear, hmonth | ⟨hmonth, hday⟩⟩
  · have hlast := dayNumber_lt_nextYear hd hy
    have hfirst : daysBeforeYear (d.year + 1) ≤ daysBeforeYear e.year := daysBeforeYear_mono (Nat.succ_pos _) hyear
    have hnumber : daysBeforeYear e.year ≤ e.dayNumber := by
      simp only [dayNumber, Nat.add_assoc]
      exact Nat.le_add_right _ _
    omega
  · have hlast := day_lt_of_exists hd
    have hfirst : daysBeforeMonth d.year (d.month + 1) ≤ daysBeforeMonth d.year e.month :=
      daysBeforeMonth_mono d.year hmonth
    simp only [dayNumber, ← hyear]
    omega
  · have hfirst := hd.2.2.1
    simp only [dayNumber, ← hyear, ← hmonth]
    omega

/-- Dates stand in the order of their day numbers. -/
theorem dayNumber_lt_iff {d e : Date} (hd : d.Exists) (hdy : 1 ≤ d.year) (he : e.Exists) (hey : 1 ≤ e.year) :
    d.dayNumber < e.dayNumber ↔ d.Before e := by
  refine ⟨fun h => ?_, fun h => dayNumber_lt_of_before hd hdy h he.2.2.1⟩
  by_contra hnot
  have hback : e.Before d ∨ e = d := by
    obtain ⟨year, month, day⟩ := d
    obtain ⟨year', month', day'⟩ := e
    simp only [Before, Date.mk.injEq] at hnot ⊢
    omega
  rcases hback with hback | rfl
  · exact absurd (dayNumber_lt_of_before he hey hback hd.2.2.1) (Nat.lt_asymm h)
  · exact Nat.lt_irrefl _ h

theorem dayNumber_inj {d e : Date} (hd : d.Exists) (hdy : 1 ≤ d.year) (he : e.Exists) (hey : 1 ≤ e.year)
    (h : d.dayNumber = e.dayNumber) : d = e := by
  have hbefore := dayNumber_lt_iff hd hdy he hey
  have hback := dayNumber_lt_iff he hey hd hdy
  obtain ⟨year, month, day⟩ := d
  obtain ⟨year', month', day'⟩ := e
  simp only [h, lt_self_iff_false, false_iff, Before, Date.mk.injEq] at hbefore hback ⊢
  omega

/-- The next day exists, and its number is the next one. -/
theorem next_spec {d : Date} (h : d.Exists) (hy : 1 ≤ d.year) :
    d.next.Exists ∧ 1 ≤ d.next.year ∧ d.next.dayNumber = d.dayNumber + 1 := by
  obtain ⟨hmonth, hlast, hday, hlength⟩ := h
  unfold next
  split
  · next hmore =>
    refine ⟨⟨hmonth, hlast, Nat.succ_pos _, hmore⟩, hy, ?_⟩
    simp only [dayNumber]
    omega
  · next hfull =>
    -- the last day of a month
    have hend : d.day = daysInMonth d.year d.month := by omega
    split
    · next hmore =>
      refine ⟨⟨Nat.succ_pos _, hmore, Nat.le_refl 1, daysInMonth_pos _ (Nat.succ_pos _) hmore⟩, hy, ?_⟩
      simp only [dayNumber, daysBeforeMonth_succ d.year hmonth hlast]
      omega
    · next hdecember =>
      have htwelve : d.month = 12 := by omega
      have hyear := daysBeforeMonth_succ d.year hmonth hlast
      rw [htwelve, daysBeforeMonth_thirteen] at hyear
      rw [htwelve] at hend
      have hfirst : (1 : Nat) ≤ 12 := by decide
      refine ⟨⟨Nat.le_refl 1, hfirst, Nat.le_refl 1, daysInMonth_pos _ (Nat.le_refl 1) hfirst⟩, Nat.le_add_left 1 _, ?_⟩
      have hjanuary : daysBeforeMonth (d.year + 1) 1 = 0 := rfl
      simp only [dayNumber, daysBeforeYear_succ hy, hjanuary, htwelve, hyear]
      omega

/-- After some days from the first one comes a date with that day number. -/
theorem after_spec (n : Nat) : (after n).Exists ∧ 1 ≤ (after n).year ∧ (after n).dayNumber = n := by
  induction n with
  | zero => decide
  | succ n ih =>
    obtain ⟨hexists, hyear, hnumber⟩ := ih
    obtain ⟨hexists', hyear', hnumber'⟩ := next_spec hexists hyear
    exact ⟨hexists', hyear', by rw [after, hnumber', hnumber]⟩

/-- Every date is reached after as many days as its day number. -/
theorem after_dayNumber {d : Date} (h : d.Exists) (hy : 1 ≤ d.year) : after d.dayNumber = d := by
  obtain ⟨hexists, hyear, hnumber⟩ := after_spec d.dayNumber
  exact dayNumber_inj hexists hyear h hy hnumber

end SignOn.Date
