import Mathlib.Data.Nat.Digits.Lemmas
import SignOn.Proofs.Escapes
import SignOn.Shape.Field

/-!
Moments that are written and read again. Day numbers and dates answer to each other, and a moment whose clock is whole
minutes from universal time is read from its wire form as it was.
-/

namespace SignOn

namespace Date

theorem isLeap_iff (year : Nat) : isLeap year = true ↔ year % 4 = 0 ∧ (year % 100 ≠ 0 ∨ year % 400 = 0) := by
  simp [isLeap]

/-- Whole cycles and single years taken off a day number, and what is left of it within a year. -/
theorem splitYears_cycles (n : Nat) :
    ∃ long centuries short single, (centuries ≤ 3 ∧ short ≤ 24 ∧ single ≤ 3) ∧
      (splitYears n).1 = 400 * long + 100 * centuries + 4 * short + single ∧
      long * 146097 + centuries * 36524 + short * 1461 + single * 365 + (splitYears n).2 = n ∧
      (splitYears n).2 ≤ 365 ∧ ((splitYears n).2 = 365 → single = 3 ∧ (short = 24 → centuries = 3)) := by
  refine ⟨_, _, _, _, ?_, rfl, ?_⟩
  · omega
  · simp only [splitYears]
    omega

theorem splitYears_spec (n : Nat) :
    daysBeforeYear ((splitYears n).1 + 1) + (splitYears n).2 = n ∧
      (splitYears n).2 < if isLeap ((splitYears n).1 + 1) then 366 else 365 := by
  obtain ⟨long, centuries, short, single, ⟨hc, hs, hy⟩, hyears, hsum, hrest, hlast⟩ := splitYears_cycles n
  generalize (splitYears n).1 = years at hyears
  generalize (splitYears n).2 = rest at hsum hrest hlast
  have hfour : years / 4 = 100 * long + 25 * centuries + short := by omega
  have hhundred : years / 100 = 4 * long + centuries := by omega
  have hcycle : years / 400 = long := by omega
  refine ⟨?_, ?_⟩
  · simp only [daysBeforeYear, Nat.add_sub_cancel, hfour, hhundred, hcycle]
    omega
  · by_cases hl : rest = 365
    · -- only the last day of a leap year is left
      obtain ⟨rfl, hcentury⟩ := hlast hl
      have hleap : isLeap (years + 1) = true := by
        rw [isLeap_iff]
        omega
      rw [hleap, if_pos rfl]
      omega
    · split <;> omega

/-- A day within some months lies in one of them. -/
theorem locate_spec (lengths : List Nat) (day : Nat) (h : day < lengths.sum) :
    (locate lengths day).1 < lengths.length ∧ (locate lengths day).2 < lengths.getD (locate lengths day).1 0 ∧
      (lengths.take (locate lengths day).1).sum + (locate lengths day).2 = day := by
  induction lengths generalizing day with
  | nil => simp at h
  | cons length rest ih =>
    rw [locate]
    by_cases hd : day < length
    · simp [hd]
    · obtain ⟨hlt, hday, hsum⟩ := ih (day - length) (by rw [List.sum_cons] at h; omega)
      rw [if_neg hd]
      refine ⟨by simpa using hlt, by simpa using hday, ?_⟩
      simp only [List.take_succ_cons, List.sum_cons]
      omega

theorem sum_monthLengths (year : Nat) : (monthLengths year).sum = if isLeap year then 366 else 365 := by
  unfold monthLengths
  cases isLeap year <;> rfl

theorem daysInMonth_le (year month : Nat) : daysInMonth year month ≤ 31 := by
  rw [daysInMonth, List.getD_eq_getElem?_getD]
  cases h : (monthLengths year)[month - 1]? with
  | none => simp
  | some length =>
    have hmem := List.mem_of_getElem? h
    simp only [monthLengths, List.mem_cons, List.not_mem_nil, or_false] at hmem
    rw [Option.getD_some]
    split at hmem <;> omega

/-- Every day number is that of a date. -/
theorem ofDayNumber_spec (n : Nat) : (ofDayNumber n).dayNumber = n ∧ (ofDayNumber n).Exists := by
  obtain ⟨hyears, hday⟩ := splitYears_spec n
  rw [← sum_monthLengths] at hday
  obtain ⟨hmonth, hrest, hsum⟩ := locate_spec _ _ hday
  simp only [ofDayNumber, dayNumber, Exists, daysBeforeMonth, daysInMonth, Nat.add_sub_cancel, ← List.sum_eq_foldl_nat]
  refine ⟨by omega, by omega, ?_, by omega, by omega⟩
  rw [monthLengths] at hmonth
  exact hmonth

theorem year_ofDayNumber {n : Nat} (h : n < days) : 1 ≤ (ofDayNumber n).year ∧ (ofDayNumber n).year ≤ 9999 := by
  have hyears := (splitYears_spec n).1
  have hyear : (ofDayNumber n).year = (splitYears n).1 + 1 := rfl
  rw [hyear]
  simp only [daysBeforeYear, Nat.add_sub_cancel, days] at hyears h
  omega

end Date

namespace Digits

theorem number_eq_ofDigitChars (cs : List Char) : number cs = Nat.ofDigitChars 10 cs 0 := by
  rw [Nat.ofDigitChars_eq_foldl, number]
  congr 1
  funext n c
  rw [Nat.mul_comm]
  rfl

theorem number_cons (c : Char) (cs : List Char) : number (c :: cs) = value c * 10 ^ cs.length + number cs := by
  rw [number_eq_ofDigitChars, number_eq_ofDigitChars, Nat.ofDigitChars_cons, Nat.ofDigitChars_eq_ofDigitChars_zero]
  simp only [value, Nat.mul_zero, Nat.zero_add]
  rw [Nat.mul_comm]
  rfl

@[simp] theorem number_padded (width n : Nat) : number (padded width n) = n := by
  rw [number_eq_ofDigitChars, padded, Nat.ofDigitChars_append, Nat.ofDigitChars_replicate_zero, Nat.mul_zero]
  exact Nat.ofDigitChars_ten_toDigits

theorem length_padded {width n : Nat} (hw : 0 < width) (h : n < 10 ^ width) : (padded width n).length = width := by
  have hcount : count n ≤ width := Nat.toDigits_length 10 n width hw h
  rw [padded, List.length_append, List.length_replicate]
  exact Nat.sub_add_cancel hcount

theorem isDigit_of_mem_padded {width n : Nat} : ∀ c ∈ padded width n, c.isDigit = true := by
  intro c hc
  rcases List.mem_append.1 hc with hc | hc
  · rw [List.eq_of_mem_replicate hc]
    decide
  · exact Nat.isDigit_of_mem_toDigits (by decide) (by decide) hc

end Digits

namespace Moment

theorem takeDigits?_of_digits (digits rest : List Char) (h : ∀ c ∈ digits, c.isDigit = true) :
    takeDigits? digits.length (digits ++ rest) = some (Digits.number digits, rest) := by
  induction digits with
  | nil => rfl
  | cons c digits ih =>
    rw [List.length_cons, List.cons_append, takeDigits?, if_pos (h c (by simp)),
      ih fun c hc => h c (List.mem_cons_of_mem _ hc), Digits.number_cons]
    rfl

theorem takeDigits?_padded {width n : Nat} (hw : 0 < width) (h : n < 10 ^ width) (rest : List Char) :
    takeDigits? width (Digits.padded width n ++ rest) = some (n, rest) := by
  have htake := takeDigits?_of_digits (Digits.padded width n) rest Digits.isDigit_of_mem_padded
  rwa [Digits.length_padded hw h, Digits.number_padded] at htake

theorem takeDigits?_two {n : Nat} (h : n < 100) (rest : List Char) : takeDigits? 2 (two n ++ rest) = some (n, rest) :=
  takeDigits?_padded (by decide) h rest

theorem takeDate?_writeDate {d : Date} (hy : d.year < 10000) (hm : d.month < 100) (hd : d.day < 100)
    (rest : List Char) : takeDate? (writeDate d ++ rest) = some (d, rest) := by
  have hyear : ∀ rest, takeDigits? 4 (Digits.padded 4 d.year ++ rest) = some (d.year, rest) :=
    takeDigits?_padded (by decide) hy
  simp only [takeDate?, writeDate, List.append_assoc, List.cons_append, hyear, takeDigits?_two hm, takeDigits?_two hd,
    Option.bind_eq_bind, Option.bind_some]

theorem microOf_padded {micro : Nat} (h : micro < second) : microOf (Digits.padded 6 micro) = micro := by
  have hlength : (Digits.padded 6 micro).length = 6 := Digits.length_padded (by decide) h
  rw [microOf, List.take_append_of_le_length (Nat.le_of_eq hlength.symm), List.take_of_length_le (Nat.le_of_eq hlength),
    Digits.number_padded]

/-- Whether nothing that could still belong to a time of day stands in front. -/
def EndsClock (rest : List Char) : Prop :=
  ∀ c, rest.head? = some c → c.isDigit = false ∧ c ≠ '.' ∧ c ≠ ','

/-- The time of day of a clock. -/
def clockOf (secondOfDay micro : Nat) : Clock :=
  ⟨secondOfDay / 3600, secondOfDay / 60 % 60, secondOfDay % 60, micro⟩

theorem takeClock?_writeTime {secondOfDay micro : Nat} (hs : secondOfDay < 86400) (hm : micro < second)
    {rest : List Char} (hrest : EndsClock rest) :
    takeClock? (writeTime secondOfDay micro ++ rest) = some (clockOf secondOfDay micro, rest) := by
  have hhour : secondOfDay / 3600 < 100 := by omega
  have hminute : secondOfDay / 60 % 60 < 100 := by omega
  have hsecond : secondOfDay % 60 < 100 := by omega
  by_cases hzero : micro = 0
  · subst hzero
    simp only [takeClock?, writeTime, writeMicro, ↓reduceIte, List.append_assoc, List.cons_append, List.nil_append,
      takeDigits?_two hhour, takeDigits?_two hminute, takeDigits?_two hsecond, Option.bind_eq_bind, Option.bind_some]
    match rest, hrest with
    | [], _ => rfl
    | c :: rest, hrest =>
      obtain ⟨-, hpoint, hcomma⟩ := hrest c rfl
      split
      · next h => exact absurd (List.cons.inj h).1 hpoint
      · next h => exact absurd (List.cons.inj h).1 hcomma
      · rfl
  · have hspan : Digits.span (Digits.padded 6 micro ++ rest) = (Digits.padded 6 micro, rest) :=
      Text.span_of_stop Digits.isDigit_of_mem_padded fun c hc => (hrest c hc).1
    have hnonempty : (Digits.padded 6 micro).isEmpty = false := by
      have hlength : (Digits.padded 6 micro).length = 6 := Digits.length_padded (by decide) hm
      cases hp : Digits.padded 6 micro with
      | nil => rw [hp] at hlength; cases hlength
      | cons => rfl
    simp only [takeClock?, writeTime, writeMicro, hzero, ↓reduceIte, List.append_assoc, List.cons_append, takeDigits?_two hhour,
      takeDigits?_two hminute, takeDigits?_two hsecond, Option.bind_eq_bind, Option.bind_some, hspan, hnonempty,
      Bool.false_eq_true, microOf_padded hm]
    rfl

/-- Whether the clock of a moment, if it is known, is whole minutes from universal time. -/
def OnMinutes (m : Moment) : Prop :=
  ∀ ahead ∈ m.offset, ahead % minute = 0

/-- The offset as it is written on the wire. -/
def wireOffset : Option Int → List Char
  | none => []
  | some 0 => ['Z']
  | some ahead => writeOffset ahead

theorem endsClock_wireOffset (offset : Option Int) : EndsClock (wireOffset offset) := by
  intro c hc
  unfold wireOffset at hc
  split at hc
  · cases hc
  · obtain rfl := Option.some.inj hc
    decide
  · next ahead _ =>
    rw [writeOffset] at hc
    by_cases hneg : ahead < 0
    · rw [if_pos hneg] at hc
      obtain rfl := Option.some.inj hc
      decide
    · rw [if_neg hneg] at hc
      obtain rfl := Option.some.inj hc
      decide

theorem looseOffset?_writeOffset {ahead : Int} (h : ahead % minute = 0) (hlt : ahead.natAbs < day) :
    looseOffset? (writeOffset ahead) = some (some ahead) := by
  have hbounds : ahead.natAbs / second / 3600 < 24 ∧ ahead.natAbs / second / 60 % 60 < 60 ∧ ahead.natAbs % minute = 0 ∧
      (ahead.natAbs / second / 3600 * 60 + ahead.natAbs / second / 60 % 60) * minute = ahead.natAbs := by
    simp only [minute, second, day] at h hlt ⊢
    omega
  obtain ⟨hhour, hminute, hwhole, hsum⟩ := hbounds
  have hsign : ∃ sign, writeOffset ahead =
      sign :: (two (ahead.natAbs / second / 3600) ++ ':' :: two (ahead.natAbs / second / 60 % 60)) ∧
        (0 ≤ ahead ∧ sign = '+' ∨ ahead < 0 ∧ sign = '-') := by
    refine ⟨if ahead < 0 then '-' else '+', by simp [writeOffset, hwhole], ?_⟩
    by_cases hneg : ahead < 0
    · exact .inr ⟨hneg, by simp [hneg]⟩
    · exact .inl ⟨Int.not_lt.1 hneg, by simp [hneg]⟩
  obtain ⟨sign, he, hcases⟩ := hsign
  have hmore : two (ahead.natAbs / second / 3600) ++ ':' :: two (ahead.natAbs / second / 60 % 60) ≠ [] := by simp
  have hfirst := takeDigits?_two (Nat.lt_trans hhour (by decide : 24 < 100))
  have hlast := takeDigits?_two (Nat.lt_trans hminute (by decide : 60 < 100)) []
  rw [List.append_nil] at hlast
  rw [he, looseOffset?]
  · simp only [hfirst, hlast, Option.bind_eq_bind, Option.bind_some, hsum, List.isEmpty_nil, Nat.not_le.2 hhour,
      Nat.not_le.2 hminute]
    rcases hcases with ⟨hpos, rfl⟩ | ⟨hneg, rfl⟩
    · have habs : (ahead.natAbs : Int) = ahead := by omega
      rw [habs]
      rfl
    · have habs : -(ahead.natAbs : Int) = ahead := by omega
      rw [habs]
      rfl
  · exact fun _ hnil => hmore hnil
  · exact fun _ hnil => hmore hnil

theorem looseOffset?_wireOffset {m : Moment} (h : m.OnMinutes) : looseOffset? (wireOffset m.offset) = some m.offset := by
  cases ho : m.offset with
  | none => rfl
  | some ahead =>
    unfold wireOffset
    split
    · next hn => cases hn
    · next hz =>
      obtain rfl := Option.some.inj hz
      rfl
    · next ahead' hs =>
      obtain rfl := Option.some.inj hs
      exact looseOffset?_writeOffset (h ahead ho) (m.offset_lt ahead ho)

theorem make?_wall (m : Moment) : make? m.wall m.offset = some m := by
  have hfits : (0 : Int) ≤ m.wall ∧ (m.wall : Int).toNat < span ∧ ∀ ahead ∈ m.offset, ahead.natAbs < day :=
    ⟨Int.natCast_nonneg _, m.wall_lt, m.offset_lt⟩
  rw [make?, dif_pos hfits]
  rfl

/-- The clock of a moment shows a date that exists, of at most four digits for the year. -/
theorem date_spec (m : Moment) :
    m.date.dayNumber = m.wall / day ∧ m.date.Exists ∧ 1 ≤ m.date.year ∧ m.date.year < 10000 := by
  have hday : m.wall / day < Date.days := Nat.div_lt_of_lt_mul (by rw [Nat.mul_comm]; exact m.wall_lt)
  obtain ⟨hnumber, hexists⟩ := Date.ofDayNumber_spec (m.wall / day)
  obtain ⟨hpos, hyear⟩ := Date.year_ofDayNumber hday
  exact ⟨hnumber, hexists, hpos, Nat.lt_succ_of_le hyear⟩

theorem secondOfDay_lt (m : Moment) : m.secondOfDay < 86400 := by
  simp only [secondOfDay, day, second]
  omega

theorem micro_lt (m : Moment) : m.micro < second :=
  Nat.mod_lt _ (by decide)

theorem clockOf_bounds {secondOfDay : Nat} (h : secondOfDay < 86400) (micro : Nat) :
    (clockOf secondOfDay micro).hour < 24 ∧ (clockOf secondOfDay micro).minute < 60 ∧
      (clockOf secondOfDay micro).second < 60 := by
  simp only [clockOf]
  omega

/-- A moment is put together again from its date and its time of day. -/
theorem place_clockOf (m : Moment) : place m.date (clockOf m.secondOfDay m.micro) m.offset = .ok m := by
  obtain ⟨hnumber, hexists, hpos, -⟩ := m.date_spec
  obtain ⟨hhour, hminute, hsecond⟩ := clockOf_bounds m.secondOfDay_lt m.micro
  have hparts : m.date.Exists ∧ 1 ≤ m.date.year ∧ (clockOf m.secondOfDay m.micro).hour < 24 ∧
      (clockOf m.secondOfDay m.micro).minute < 60 ∧ (clockOf m.secondOfDay m.micro).second < 60 ∧ m.micro < second :=
    ⟨hexists, hpos, hhour, hminute, hsecond, m.micro_lt⟩
  have hwall : m.date.dayNumber * day +
      ((m.secondOfDay / 3600 * 60 + m.secondOfDay / 60 % 60) * 60 + m.secondOfDay % 60) * second + m.micro = m.wall := by
    rw [hnumber]
    simp only [secondOfDay, micro, day, second]
    omega
  have hself : ofParts? m.date (clockOf m.secondOfDay m.micro).hour (clockOf m.secondOfDay m.micro).minute
      (clockOf m.secondOfDay m.micro).second m.micro m.offset = some m := by
    rw [ofParts?, if_pos hparts]
    simp only [clockOf, hwall]
    exact m.make?_wall
  rw [place]
  simp only [clockOf] at hself ⊢
  rw [hself]

theorem toList_wire (m : Moment) :
    m.wire.toList = writeDate m.date ++ 'T' :: (writeTime m.secondOfDay m.micro ++ wireOffset m.offset) := by
  have hoffset : m.wire = String.ofList (m.writeWall ++ wireOffset m.offset) := rfl
  rw [hoffset, String.toList_ofList, writeWall, List.append_assoc, List.cons_append]

/-- A moment on whole minutes is read from its wire form as it was. -/
theorem ofText_wire {m : Moment} (h : m.OnMinutes) : ofText m.wire = .ok m := by
  obtain ⟨-, hexists, -, hyear⟩ := m.date_spec
  have hmonth : m.date.month < 100 := Nat.lt_of_le_of_lt hexists.2.1 (by decide)
  have hday : m.date.day < 100 :=
    Nat.lt_of_le_of_lt (Nat.le_trans hexists.2.2.2 (Date.daysInMonth_le _ _)) (by decide)
  obtain ⟨hhour, hminute, hsecond⟩ := clockOf_bounds m.secondOfDay_lt m.micro
  have hspelled : spelled? m.wire.toList = some (.ok m) := by
    rw [toList_wire]
    simp only [spelled?, takeDate?_writeDate hyear hmonth hday,
      takeClock?_writeTime m.secondOfDay_lt m.micro_lt (endsClock_wireOffset m.offset), looseOffset?_wireOffset h,
      Option.bind_eq_bind, Option.bind_some]
    rw [if_pos ⟨rfl, hexists, hhour, hminute, hsecond⟩, place_clockOf]
  rw [ofText, hspelled]

/-- Clients can only tell of clocks that are whole minutes ahead or behind. -/
theorem minutes_of_looseOffset? {cs : List Char} {offset : Option Int} (h : looseOffset? cs = some offset) :
    ∀ ahead ∈ offset, ahead % minute = 0 := by
  unfold looseOffset? at h
  split at h
  · cases h
    simp
  · cases h
    simp
  · cases h
    simp
  · simp only [Option.bind_eq_bind, Option.bind_eq_some_iff] at h
    obtain ⟨⟨hour, cs⟩, -, ⟨minute, cs'⟩, -, h⟩ := h
    dsimp only at h
    split at h
    · cases h
    split at h
    · cases h
      simp
    split at h
    · cases h
      simp
    · cases h

theorem onMinutes_of_make? {wall : Int} {offset : Option Int} {m : Moment} (h : make? wall offset = some m)
    (ho : ∀ ahead ∈ offset, ahead % minute = 0) : m.OnMinutes := by
  rw [OnMinutes, (wall_of_make? h).2]
  exact ho

theorem onMinutes_of_place {date : Date} {clock : Clock} {offset : Option Int} {m : Moment}
    (h : place date clock offset = .ok m) (ho : ∀ ahead ∈ offset, ahead % minute = 0) : m.OnMinutes := by
  unfold place at h
  split at h
  · next m' hm =>
    obtain rfl := Except.ok.inj h
    unfold ofParts? at hm
    split at hm
    · exact onMinutes_of_make? hm ho
    · cases hm
  · cases h

theorem onMinutes_of_ofCount? {count : Int} {micros : Nat} {m : Moment} (h : ofCount? count micros = some m) :
    m.OnMinutes :=
  onMinutes_of_make? h (by simp)

theorem onMinutes_of_ofText {s : String} {m : Moment} (h : ofText s = .ok m) : m.OnMinutes := by
  unfold ofText at h
  dsimp only at h
  split at h
  · next result hr =>
    unfold spelled? at hr
    simp only [Option.bind_eq_bind, Option.bind_eq_some_iff] at hr
    obtain ⟨⟨date, cs⟩, -, hr⟩ := hr
    dsimp only at hr
    split at hr
    · simp only [Option.bind_eq_some_iff] at hr
      obtain ⟨⟨clock, cs'⟩, -, offset, ho, hr⟩ := hr
      split at hr
      · obtain rfl := Option.some.inj hr
        exact onMinutes_of_place h (minutes_of_looseOffset? ho)
      · cases hr
    · cases hr
  split at h
  · unfold counted at h
    split at h
    · next hm =>
      obtain rfl := Except.ok.inj h
      exact onMinutes_of_ofCount? hm
    · dsimp only at h
      split at h <;> cases h
  · cases hmid : midnight? s.toList with
    | none =>
      rw [hmid] at h
      cases h
    | some result =>
      rw [hmid, Option.getD_some] at h
      unfold midnight? at hmid
      simp only [Option.bind_eq_bind, Option.bind_eq_some_iff] at hmid
      obtain ⟨⟨date, cs⟩, -, hr⟩ := hmid
      dsimp only at hr
      split at hr
      · obtain rfl := Option.some.inj hr
        exact onMinutes_of_place h (by simp)
      · cases hr

theorem onMinutes_of_elim {m : Moment} {o : Option Moment} {r : Refusal} (h : o.elim (.error r) Except.ok = .ok m)
    (ho : ∀ m ∈ o, m.OnMinutes) : m.OnMinutes := by
  cases o with
  | none => cases h
  | some m' =>
    obtain rfl := Except.ok.inj h
    exact ho m' rfl

/-- A moment that was read from a value is on whole minutes. -/
theorem onMinutes_of_ofJson {v : Json} {m : Moment} (h : ofJson v = .ok m) : m.OnMinutes := by
  cases v with
  | str s =>
    cases s with
    | whole s => exact onMinutes_of_ofText h
    | torn => cases h
  | int i =>
    rw [ofJson] at h
    split at h
    · exact onMinutes_of_elim h fun m hm => onMinutes_of_ofCount? hm
    · cases h
  | real x =>
    cases x with
    | finite negative rank => exact onMinutes_of_elim h fun m hm => onMinutes_of_ofCount? hm
    | infinite negative | notANumber => cases h
  | null | bool b | arr items | obj members => cases h

end Moment

end SignOn
