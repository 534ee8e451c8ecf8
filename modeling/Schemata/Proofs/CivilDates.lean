import Mathlib.Tactic.IntervalCases
import Schemata.Calendar
/-!
# Day numbers of civil dates

`Date.dayNumber` is a closed formula over years that begin in March.  Here it is compared with the
calendar itself, in which a date is counted year by year, month by month and day by day.

* `Date.dayNumber_eq_count`: the day number is that count, moved to the first of March.
* `Date.exists_inYear`, `Date.InYear.ofDayNumber_eq`: every number is one day of one year from
  March, and `Date.ofDayNumber` finds the year and the day.
* `Date.ofDayNumber_dayNumber` and `Date.isValid_ofDayNumber`: reading a day number back gives the
  date, and every day number in the years 1 to 9999 is that of a date.
-/

namespace Schemata

namespace Date

/-! ## 1. Counting by the calendar -/

/-- A date that the calendar has, of the years 1 to 9999. -/
structure IsValid (d : Date) : Prop where
  year_pos : 1 ≤ d.year
  year_le : d.year ≤ 9999
  month_pos : 1 ≤ d.month
  month_le : d.month ≤ 12
  day_pos : 1 ≤ d.day
  day_le : d.day ≤ daysInMonth d.year d.month

instance (d : Date) : Decidable d.IsValid :=
  decidable_of_iff
    ((1 ≤ d.year ∧ d.year ≤ 9999) ∧ (1 ≤ d.month ∧ d.month ≤ 12) ∧
      1 ≤ d.day ∧ d.day ≤ daysInMonth d.year d.month)
    ⟨fun ⟨⟨a, b⟩, ⟨c, d⟩, e, f⟩ => ⟨a, b, c, d, e, f⟩,
      fun ⟨a, b, c, d, e, f⟩ => ⟨⟨a, b⟩, ⟨c, d⟩, e, f⟩⟩

/-- The days of the first `n` months of a year. -/
def daysOfMonths (year n : Nat) : Nat := ((List.range' 1 n).map (daysInMonth year)).sum

/-- The days of the years before a year, the year 0 being the first. -/
def daysBefore (year : Nat) : Nat := ((List.range year).map fun y => daysOfMonths y 12).sum

/-- The days before a date, counted from the start of the year 0. -/
def count (d : Date) : Nat := daysBefore d.year + daysOfMonths d.year (d.month - 1) + (d.day - 1)

/-- The day that a leap year has more. -/
def leapDay (year : Nat) : Nat := if isLeap year then 1 else 0

/-- The leap days up to the end of a year, that of the year 0 apart. -/
def leapDays (year : Nat) : Nat := year / 4 - year / 100 + year / 400

theorem isLeap_iff (year : Nat) :
    isLeap year = true ↔ year % 4 = 0 ∧ (year % 100 ≠ 0 ∨ year % 400 = 0) := by
  simp [isLeap]

theorem leapDays_succ (year : Nat) : leapDays (year + 1) = leapDays year + leapDay (year + 1) := by
  unfold leapDays leapDay
  split
  · rename_i hleap
    rw [isLeap_iff] at hleap
    have h4 : (year + 1) / 4 = year / 4 + 1 := by omega
    rcases hleap.2 with h | h
    · have h100 : (year + 1) / 100 = year / 100 := by omega
      have h400 : (year + 1) / 400 = year / 400 := by omega
      omega
    · have h100 : (year + 1) / 100 = year / 100 + 1 := by omega
      have h400 : (year + 1) / 400 = year / 400 + 1 := by omega
      omega
  · rename_i hleap
    rw [isLeap_iff] at hleap
    have h400 : (year + 1) / 400 = year / 400 := by omega
    by_cases h : (year + 1) % 4 = 0
    · have h4 : (year + 1) / 4 = year / 4 + 1 := by omega
      have h100 : (year + 1) / 100 = year / 100 + 1 := by omega
      omega
    · have h4 : (year + 1) / 4 = year / 4 := by omega
      have h100 : (year + 1) / 100 = year / 100 := by omega
      omega

theorem cast_leapDays (year : Nat) :
    (leapDays year : Int)
      = (year : Int).fdiv 4 - (year : Int).fdiv 100 + (year : Int).fdiv 400 := by
  simp (disch := decide) only [Int.fdiv_eq_ediv_of_nonneg]
  unfold leapDays
  omega

theorem daysOfMonths_early {year n : Nat} (h : n ≤ 1) : daysOfMonths year n = 31 * n := by
  interval_cases n <;> rfl

/-- From March on five months have 153 days, in the order 31, 30, 31, 30, 31. -/
theorem daysOfMonths_late {year n : Nat} (h : 2 ≤ n) (h' : n ≤ 12) :
    daysOfMonths year n = (153 * (n - 2) + 2) / 5 + 59 + leapDay year := by
  cases hleap : isLeap year <;> interval_cases n <;>
    simp [daysOfMonths, List.range', daysInMonth, leapDay, hleap]

theorem daysBefore_succ (year : Nat) :
    daysBefore (year + 1) = 366 + 365 * year + leapDays year := by
  induction year with
  | zero => rfl
  | succ year ih =>
    have hstep : daysBefore (year + 2) = daysBefore (year + 1) + daysOfMonths (year + 1) 12 := by
      rw [daysBefore, List.range_succ, List.map_append, List.sum_append, List.map_singleton,
        List.sum_singleton, daysBefore]
    rw [hstep, ih, daysOfMonths_late (by decide) (by decide), leapDays_succ]
    omega

/-- **The day number counts days by the calendar**, from the first of March of the year 0, which is
the 61st day of that year. -/
theorem dayNumber_eq_count {d : Date} (hd : d.IsValid) : d.dayNumber = (d.count : Int) - 60 := by
  obtain ⟨year, month, day⟩ := d
  obtain ⟨hyear, -, hmonth, hmonth', hday, -⟩ := hd
  dsimp only at hyear hmonth hmonth' hday
  obtain ⟨before, rfl⟩ := Nat.exists_eq_add_of_le' hyear
  unfold dayNumber count
  dsimp only
  rw [daysBefore_succ]
  by_cases hearly : month ≤ 2
  · rw [if_pos hearly, if_pos hearly, daysOfMonths_early (by omega),
      show ((before + 1 : Nat) : Int) - 1 = before by omega]
    have hleap := cast_leapDays before
    have hmonths : (153 * ((month : Int) + 9) + 2).fdiv 5 = 306 + 31 * (month - 1) := by
      rw [Int.fdiv_eq_ediv_of_nonneg _ (by decide)]
      omega
    omega
  · rw [if_neg hearly, if_neg hearly, daysOfMonths_late (by omega) (by omega)]
    have hleap := cast_leapDays (before + 1)
    rw [leapDays_succ] at hleap
    have hmonths : (153 * ((month : Int) - 3) + 2).fdiv 5
        = ((153 * (month - 1 - 2) + 2) / 5 : Nat) := by
      rw [Int.fdiv_eq_ediv_of_nonneg _ (by decide)]
      omega
    omega

/-! ## 2. Years from March -/

/-- The year from March has a leap day at its end. -/
def EndsInLeapDay (year : Int) : Prop := year % 4 = 3 ∧ (year % 100 ≠ 99 ∨ year % 400 = 399)

/-- The `n`-th day of all is the `day`-th of the year from March, both counted from 0. -/
structure InYear (n year day : Int) : Prop where
  eq : n = 365 * year + year / 4 - year / 100 + year / 400 + day
  nonneg : 0 ≤ day
  le : day ≤ 365
  leap : day = 365 → EndsInLeapDay year

/-- Every day is in a year.  Four centuries have 146097 days, a century 36524, four years 1461; the
last of four centuries, and the last of four years, may have a day more. -/
theorem exists_inYear (n : Int) : ∃ year day, InYear n year day := by
  obtain ⟨era, inEra, hera⟩ : ∃ era inEra : Int,
      n = 146097 * era + inEra ∧ 0 ≤ inEra ∧ inEra < 146097 :=
    ⟨n / 146097, n % 146097, by omega⟩
  obtain ⟨century, inCentury, hcentury⟩ : ∃ century inCentury : Int,
      inEra = 36524 * century + inCentury ∧ 0 ≤ century ∧ century ≤ 3 ∧ 0 ≤ inCentury ∧
        inCentury ≤ 36524 ∧ (inCentury = 36524 → century = 3) := by
    by_cases hlast : inEra = 146096
    · exact ⟨3, 36524, by omega⟩
    · exact ⟨inEra / 36524, inEra % 36524, by omega⟩
  obtain ⟨four, inFour, hfour⟩ : ∃ four inFour : Int,
      inCentury = 1461 * four + inFour ∧ 0 ≤ four ∧ four ≤ 24 ∧ 0 ≤ inFour ∧ inFour ≤ 1460 :=
    ⟨inCentury / 1461, inCentury % 1461, by omega⟩
  obtain ⟨one, day, hone⟩ : ∃ one day : Int,
      inFour = 365 * one + day ∧ 0 ≤ one ∧ one ≤ 3 ∧ 0 ≤ day ∧ day ≤ 365 ∧
        (day = 365 → one = 3) := by
    by_cases hlast : inFour = 1460
    · exact ⟨3, 365, by omega⟩
    · exact ⟨inFour / 365, inFour % 365, by omega⟩
  have h4 : (400 * era + 100 * century + 4 * four + one) / 4
      = 100 * era + 25 * century + four := by omega
  have h100 : (400 * era + 100 * century + 4 * four + one) / 100 = 4 * era + century := by omega
  have h400 : (400 * era + 100 * century + 4 * four + one) / 400 = era := by omega
  refine ⟨400 * era + 100 * century + 4 * four + one, day, ?_, by omega, by omega, fun hday => ?_⟩
  · omega
  · exact ⟨by omega, by omega⟩

/-- The year is read off the day of the era by a quotient.  Before the quotient is taken the days
are evened out: a day less for every four years, a day more for every century, and none for the last
day of the era. -/
theorem InYear.yearOfEra_eq {n year day : Int} (h : InYear n year day) (hpos : 0 ≤ year)
    (hlt : year < 400) : (n - n / 1460 + n / 36524 - n / 146096) / 365 = year := by
  obtain ⟨heq, hnonneg, hle, hleap⟩ := h
  obtain ⟨century, four, one, hyear, hone, hfour, hcentury⟩ : ∃ century four one : Int,
      year = 100 * century + 4 * four + one ∧ (0 ≤ one ∧ one ≤ 3) ∧ (0 ≤ four ∧ four ≤ 24) ∧
        0 ≤ century ∧ century ≤ 3 := ⟨year / 100, year % 100 / 4, year % 4, by omega⟩
  have hn : n = 36524 * century + (1461 * four + 365 * one + day) := by omega
  have hlast : day = 365 → one = 3 ∧ (four = 24 → century = 3) := by
    intro hday
    have hends := hleap hday
    unfold EndsInLeapDay at hends
    omega
  have hcenturies : n / 36524 - n / 146096 = century := by
    by_cases hend : n = 146096
    · omega
    · have hshort : 1461 * four + 365 * one + day ≤ 36523 := by omega
      omega
  have hlow : 365 * year ≤ n - n / 1460 + century := by omega
  have hhigh : n - n / 1460 + century < 365 * (year + 1) := by omega
  omega

/-- The month, counted from March, in which a day of the year is. -/
theorem monthOf_eq {month day : Int} (hmonth : 0 ≤ month ∧ month ≤ 11) (hday : 1 ≤ day)
    (hle : day ≤ 31) (hnext : (153 * month + 2) / 5 + day ≤ (153 * (month + 1) + 2) / 5) :
    (5 * ((153 * month + 2) / 5 + day - 1) + 2) / 153 = month := by
  obtain ⟨hpos, hlt⟩ := hmonth
  interval_cases month <;> omega

/-- The month of the calendar that is a number of months after March. -/
def afterMarch (month : Int) : Int := if month < 10 then month + 3 else month - 9

/-- The same day of the era, and the era. -/
theorem InYear.inEra {n era year day : Int} (h : InYear n (400 * era + year) day) (hpos : 0 ≤ year)
    (hlt : year < 400) : n / 146097 = era ∧ InYear (n - era * 146097) year day := by
  obtain ⟨heq, hnonneg, hle, hleap⟩ := h
  have h4 : (400 * era + year) / 4 = 100 * era + year / 4 := by omega
  have h100 : (400 * era + year) / 100 = 4 * era + year / 100 := by omega
  have h400 : (400 * era + year) / 400 = era + year / 400 := by omega
  rw [h4, h100, h400] at heq
  have hends : day = 365 → EndsInLeapDay year := by
    intro hday
    have hends := hleap hday
    unfold EndsInLeapDay at hends ⊢
    omega
  refine ⟨?_, by omega, hnonneg, hle, hends⟩
  have hlast : year = 399 ∨ 365 * year + year / 4 - year / 100 + year / 400 + day < 146097 := by
    omega
  rcases hlast with rfl | hlast <;> omega

/-- What `ofDayNumber` makes of a day of a year: January and February are months of the next one. -/
theorem InYear.ofDayNumber_eq {n year day : Int} (h : InYear n year day) :
    ofDayNumber n =
      let month := (5 * day + 2) / 153
      (year + (if afterMarch month ≤ 2 then 1 else 0), (afterMarch month).toNat,
        (day - (153 * month + 2) / 5 + 1).toNat) := by
  obtain ⟨era, inEra, rfl, hpos, hlt⟩ : ∃ era inEra : Int,
      year = 400 * era + inEra ∧ 0 ≤ inEra ∧ inEra < 400 :=
    ⟨year / 400, year % 400, by omega⟩
  obtain ⟨hera, hcut⟩ := h.inEra hpos hlt
  have hyear := hcut.yearOfEra_eq hpos hlt
  have hday : n - era * 146097 - (365 * inEra + inEra / 4 - inEra / 100) = day := by
    have heq := hcut.eq
    have hnone : inEra / 400 = 0 := by omega
    omega
  unfold ofDayNumber afterMarch
  simp (disch := decide) only [Int.fdiv_eq_ediv_of_nonneg, hera, hyear, hday]
  rw [show inEra + era * 400 = 400 * era + inEra by omega]

/-! ## 3. Reading a day number back -/

theorem daysInMonth_le (year month : Nat) : daysInMonth year month ≤ 31 := by
  unfold daysInMonth
  split_ifs <;> omega

/-- A month from March on ends where the next one starts. -/
theorem daysInMonth_late (year : Nat) {month : Nat} (h : 3 ≤ month) (h' : month ≤ 12) :
    (153 * ((month : Int) - 3) + 2) / 5 + daysInMonth year month
      = (153 * ((month : Int) - 3 + 1) + 2) / 5 := by
  interval_cases month <;> rfl

theorem daysInMonth_early (year : Nat) {month : Nat} (h : 1 ≤ month) (h' : month ≤ 2) :
    daysInMonth year month = if month = 1 then 31 else 28 + leapDay year := by
  unfold leapDay
  interval_cases month
  · rfl
  · cases hleap : isLeap year <;> simp [daysInMonth, hleap]

/-- The leap day of a year ends the year from March before it. -/
theorem endsInLeapDay_iff (year : Nat) : EndsInLeapDay ((year : Int) - 1) ↔ leapDay year = 1 := by
  have hleap := isLeap_iff year
  unfold EndsInLeapDay leapDay
  cases h : isLeap year <;> simp [h] at hleap ⊢ <;> omega

/-- A date as a day of a year from March. -/
theorem inYear_dayNumber {d : Date} (hd : d.IsValid) :
    ∃ year month : Int, (0 ≤ month ∧ month ≤ 11) ∧ afterMarch month = d.month ∧
      year + (if afterMarch month ≤ 2 then 1 else 0) = d.year ∧ (d.day : Int) ≤ 31 ∧
      (153 * month + 2) / 5 + d.day ≤ (153 * (month + 1) + 2) / 5 ∧
      InYear d.dayNumber year ((153 * month + 2) / 5 + d.day - 1) := by
  obtain ⟨year, month, day⟩ := d
  obtain ⟨hyear, -, hmonth, hmonth', hday, hday'⟩ := hd
  dsimp only at *
  unfold dayNumber
  simp (disch := decide) only [Int.fdiv_eq_ediv_of_nonneg]
  by_cases hearly : month ≤ 2
  · have hafter : afterMarch ((month : Int) + 9) = month := by
      unfold afterMarch
      omega
    have hleap := endsInLeapDay_iff year
    have hone : leapDay year ≤ 1 := by
      unfold leapDay
      split <;> omega
    rw [daysInMonth_early year hmonth hearly] at hday'
    refine ⟨year - 1, month + 9, by omega, hafter, ?_, ?_, ?_, ?_, ?_, ?_, ?_⟩
    · rw [hafter]
      omega
    · split at hday' <;> omega
    · split at hday' <;> omega
    · simp only [if_pos hearly]
      omega
    · omega
    · split at hday' <;> omega
    · intro hlast
      rw [hleap]
      split at hday' <;> omega
  · have hafter : afterMarch ((month : Int) - 3) = month := by
      unfold afterMarch
      omega
    have hlength := daysInMonth_late year (by omega : 3 ≤ month) hmonth'
    have hmost := daysInMonth_le year month
    refine ⟨year, month - 3, by omega, hafter, ?_, by omega, by omega, ?_, by omega, by omega, ?_⟩
    · rw [hafter]
      omega
    · simp only [if_neg hearly]
      omega
    · omega

/-- **A date is read back from its day number.** -/
theorem ofDayNumber_dayNumber {d : Date} (hd : d.IsValid) :
    ofDayNumber d.dayNumber = ((d.year : Int), d.month, d.day) := by
  obtain ⟨year, month, hmonth, hafter, hyear, hle, hnext, hin⟩ := inYear_dayNumber hd
  have hday := hd.day_pos
  rw [hin.ofDayNumber_eq]
  dsimp only
  rw [monthOf_eq hmonth (by omega) hle hnext, hyear, hafter]
  refine Prod.ext rfl (Prod.ext ?_ ?_)
  · dsimp only
    omega
  · dsimp only
    omega

/-- **Every day of the years 1 to 9999 has a date**, the one that is read back from its number. -/
theorem isValid_ofDayNumber {n year : Int} {month day : Nat}
    (h : ofDayNumber n = (year, month, day)) (hpos : 1 ≤ year) (hle : year ≤ 9999) :
    IsValid ⟨year.toNat, month, day⟩ ∧ dayNumber ⟨year.toNat, month, day⟩ = n := by
  obtain ⟨y, inYear, hin⟩ := exists_inYear n
  rw [hin.ofDayNumber_eq] at h
  obtain ⟨hin, hnonneg, hlast, hleap⟩ := hin
  obtain ⟨m, hm⟩ : ∃ m, m = (5 * inYear + 2) / 153 := ⟨_, rfl⟩
  simp only [← hm, Prod.mk.injEq] at h
  obtain ⟨hyear, hmonth, hday⟩ := h
  by_cases hearly : m < 10
  · rw [afterMarch, if_pos hearly] at hyear hmonth
    rw [if_neg (by omega)] at hyear
    have hcast : (month : Int) - 3 = m := by omega
    have hlength := daysInMonth_late year.toNat (by omega : 3 ≤ month) (by omega)
    rw [hcast] at hlength
    refine ⟨⟨show 1 ≤ year.toNat by omega, show year.toNat ≤ 9999 by omega,
      show 1 ≤ month by omega, show month ≤ 12 by omega, show 1 ≤ day by omega,
      show day ≤ daysInMonth year.toNat month by omega⟩, ?_⟩
    unfold dayNumber
    simp (disch := decide) only [Int.fdiv_eq_ediv_of_nonneg]
    rw [if_neg (by omega), if_neg (by omega), hcast, Int.toNat_of_nonneg (by omega)]
    omega
  · rw [afterMarch, if_neg hearly] at hyear hmonth
    rw [if_pos (by omega)] at hyear
    have hcast : (month : Int) + 9 = m := by omega
    have hlength := daysInMonth_early year.toNat (by omega : 1 ≤ month) (by omega)
    have hends := endsInLeapDay_iff year.toNat
    rw [Int.toNat_of_nonneg (by omega), show year - 1 = y by omega] at hends
    have hfebruary : day ≤ daysInMonth year.toNat month := by
      rw [hlength]
      split
      · omega
      · by_cases hfull : inYear = 365
        · have hone := hends.mp (hleap hfull)
          omega
        · omega
    refine ⟨⟨show 1 ≤ year.toNat by omega, show year.toNat ≤ 9999 by omega,
      show 1 ≤ month by omega, show month ≤ 12 by omega, show 1 ≤ day by omega, hfebruary⟩, ?_⟩
    unfold dayNumber
    simp (disch := decide) only [Int.fdiv_eq_ediv_of_nonneg]
    rw [if_pos (by omega), if_pos (by omega), hcast, Int.toNat_of_nonneg (by omega)]
    omega

end Date

end Schemata
