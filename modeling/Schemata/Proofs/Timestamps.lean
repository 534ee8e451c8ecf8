import Schemata.Clock
import Schemata.Proofs.CivilDates
import Schemata.Proofs.DecimalText
/-!
# What a timestamp denotes

A timestamp is the UTC form of a moment without its microseconds.  The UTC form is found by
arithmetic on instants; here instants are counted by the calendar (`Moment.elapsed`), and timestamps
are read by a reader that knows the form and no arithmetic (`Moment.ofStamp?`).

* `Moment.toUtc?_eq_some_iff`: the UTC form is the one moment in UTC of the same instant, and there
  is none only where the years 1 to 9999 have no such moment.
* `Moment.ofStamp?_utcText`: the reader finds what was written, to the millisecond.
* `Clock.stamp_denotes`: a timestamp denotes the instant, rounded down to the millisecond.
-/

namespace Schemata

namespace Moment

/-! ## 1. Instants, counted by the calendar -/

/-- A moment that the calendar and a clock have, of the years 1 to 9999; the clock is less than a
day ahead of UTC or behind it. -/
structure IsValid (t : Moment) : Prop where
  date : t.date.IsValid
  hour_lt : t.hour < 24
  minute_lt : t.minute < 60
  second_lt : t.second < 60
  microsecond_lt : t.microsecond < 1000000
  offset_lt : (t.offset.getD .utc).microseconds.natAbs < microsecondsPerDay

instance (t : Moment) : Decidable t.IsValid :=
  decidable_of_iff
    (t.date.IsValid ∧ (t.hour < 24 ∧ t.minute < 60 ∧ t.second < 60 ∧ t.microsecond < 1000000) ∧
      (t.offset.getD .utc).microseconds.natAbs < microsecondsPerDay)
    ⟨fun ⟨a, ⟨b, c, d, e⟩, f⟩ => ⟨a, b, c, d, e, f⟩,
      fun ⟨a, b, c, d, e, f⟩ => ⟨a, ⟨b, c, d, e⟩, f⟩⟩

/-- Microseconds since the start of the year 0 in UTC; a moment without an offset is in UTC. -/
def elapsed (t : Moment) : Int :=
  t.date.count * microsecondsPerDay + t.timeOfDay - (t.offset.getD .utc).microseconds

/-- A moment is the UTC form of another: it is in UTC and denotes the same instant. -/
structure IsUtcOf (u t : Moment) : Prop where
  valid : u.IsValid
  utc : u.offset = some .utc
  same : u.elapsed = t.elapsed

theorem instant_eq {t : Moment} (ht : t.date.IsValid) :
    t.instant = t.elapsed - 60 * microsecondsPerDay := by
  unfold instant elapsed
  rw [Date.dayNumber_eq_count ht]
  ring

theorem instant_eq_iff {t u : Moment} (ht : t.date.IsValid) (hu : u.date.IsValid) :
    t.instant = u.instant ↔ t.elapsed = u.elapsed := by
  rw [instant_eq ht, instant_eq hu]
  omega

/-! ## 2. The UTC form -/

theorem timeOfDay_lt {t : Moment} (ht : t.IsValid) : t.timeOfDay < microsecondsPerDay := by
  obtain ⟨-, hhour, hminute, hsecond, hmicrosecond, -⟩ := ht
  unfold timeOfDay microsecondsPerDay microsecondsPerHour microsecondsPerMinute
    microsecondsPerSecond
  omega

/-- A moment in UTC is found at its instant. -/
theorem ofInstant_instant {u : Moment} (hu : u.IsValid) (hutc : u.offset = some .utc) :
    ofInstant u.instant = u := by
  have htime := timeOfDay_lt hu
  have hinstant : u.instant = u.date.dayNumber * microsecondsPerDay + u.timeOfDay := by
    rw [instant, hutc]
    exact Int.sub_zero _
  have hday : u.instant.fdiv microsecondsPerDay = u.date.dayNumber := by
    rw [Int.fdiv_eq_ediv_of_nonneg _ (by decide), hinstant]
    unfold microsecondsPerDay microsecondsPerHour microsecondsPerMinute microsecondsPerSecond at *
    omega
  have hrest : (u.instant - u.date.dayNumber * microsecondsPerDay).toNat = u.timeOfDay := by
    omega
  unfold ofInstant
  simp only [hday, hrest, Date.ofDayNumber_dayNumber hu.date, Int.toNat_natCast]
  obtain ⟨⟨year, month, day⟩, hour, minute, second, microsecond, offset⟩ := u
  obtain ⟨-, hhour, hminute, hsecond, hmicrosecond, -⟩ := hu
  dsimp only at *
  subst hutc
  unfold timeOfDay microsecondsPerHour microsecondsPerMinute microsecondsPerSecond
  dsimp only
  congr 1 <;> omega

/-- The moment at an instant of the years 1 to 9999. -/
theorem instant_ofInstant {n : Int} (hpos : 1 ≤ (ofInstant n).date.year)
    (hle : (ofInstant n).date.year ≤ 9999) :
    (ofInstant n).IsValid ∧ (ofInstant n).offset = some .utc ∧ (ofInstant n).instant = n := by
  obtain ⟨days, rest, hn, hrest⟩ : ∃ days : Int, ∃ rest : Nat,
      n = days * microsecondsPerDay + rest ∧ rest < microsecondsPerDay :=
    ⟨n / microsecondsPerDay, (n % microsecondsPerDay).toNat, by
      unfold microsecondsPerDay microsecondsPerHour microsecondsPerMinute microsecondsPerSecond
      omega⟩
  have hday : n.fdiv microsecondsPerDay = days := by
    rw [Int.fdiv_eq_ediv_of_nonneg _ (by decide), hn]
    unfold microsecondsPerDay microsecondsPerHour microsecondsPerMinute microsecondsPerSecond at *
    omega
  obtain ⟨year, month, day, hdate⟩ : ∃ year month day,
      Date.ofDayNumber days = (year, month, day) := ⟨_, _, _, rfl⟩
  have hofInstant : ofInstant n = ⟨⟨year.toNat, month, day⟩, rest / microsecondsPerHour,
      rest / microsecondsPerMinute % 60, rest / microsecondsPerSecond % 60,
      rest % microsecondsPerSecond, some .utc⟩ := by
    unfold ofInstant
    dsimp only
    rw [hday, hdate, show (n - days * microsecondsPerDay).toNat = rest by omega]
  rw [hofInstant] at hpos hle ⊢
  dsimp only at hpos hle
  obtain ⟨hvalid, hnumber⟩ := Date.isValid_ofDayNumber hdate (by omega) (by omega)
  have htime : rest / microsecondsPerHour * microsecondsPerHour
      + rest / microsecondsPerMinute % 60 * microsecondsPerMinute
      + rest / microsecondsPerSecond % 60 * microsecondsPerSecond + rest % microsecondsPerSecond
      = rest := by
    unfold microsecondsPerHour microsecondsPerMinute microsecondsPerSecond
    omega
  refine ⟨⟨hvalid, ?_, ?_, ?_, ?_, ?_⟩, rfl, ?_⟩
  · dsimp only
    unfold microsecondsPerDay microsecondsPerHour microsecondsPerMinute microsecondsPerSecond at *
    omega
  · exact Nat.mod_lt _ (by decide)
  · exact Nat.mod_lt _ (by decide)
  · exact Nat.mod_lt _ (by decide)
  · exact show (0 : Int).natAbs < microsecondsPerDay by decide
  · unfold instant timeOfDay
    dsimp only
    rw [hnumber, htime, hn]
    exact Int.sub_zero _

/-- **The UTC form** of a moment is the moment in UTC that denotes the same instant. -/
theorem toUtc?_eq_some_iff {t u : Moment} (ht : t.IsValid) :
    t.toUtc? = some u ↔ u.IsUtcOf t := by
  unfold toUtc?
  dsimp only
  constructor
  · intro h
    split at h
    · rename_i hyear
      obtain rfl := Option.some.inj h
      obtain ⟨hvalid, hutc, hinstant⟩ := instant_ofInstant hyear.1 hyear.2
      exact ⟨hvalid, hutc, (instant_eq_iff hvalid.date ht.date).mp hinstant⟩
    · cases h
  · rintro ⟨hvalid, hutc, hsame⟩
    rw [← (instant_eq_iff hvalid.date ht.date).mpr hsame, ofInstant_instant hvalid hutc,
      if_pos ⟨hvalid.date.year_pos, hvalid.date.year_le⟩]

/-- Two moments in UTC of one instant are the same. -/
theorem eq_of_elapsed {u v : Moment} (hu : u.IsValid) (hv : v.IsValid) (hutc : u.offset = some .utc)
    (hutc' : v.offset = some .utc) (h : u.elapsed = v.elapsed) : u = v := by
  rw [← ofInstant_instant hu hutc, (instant_eq_iff hu.date hv.date).mpr h,
    ofInstant_instant hv hutc']

/-! ## 3. Moments to the millisecond -/

/-- A moment without its microseconds. -/
def toMillisecond (u : Moment) : Moment := { u with microsecond := u.microsecond / 1000 * 1000 }

theorem isValid_toMillisecond {u : Moment} (hu : u.IsValid) : u.toMillisecond.IsValid := by
  obtain ⟨hdate, hhour, hminute, hsecond, hmicrosecond, hoffset⟩ := hu
  refine ⟨hdate, hhour, hminute, hsecond, ?_, hoffset⟩
  unfold toMillisecond
  dsimp only
  omega

/-- In UTC a day has a whole number of milliseconds, and so have its parts. -/
theorem elapsed_toMillisecond {u : Moment} (hutc : u.offset = some .utc) :
    u.toMillisecond.elapsed = u.elapsed / 1000 * 1000 := by
  unfold elapsed toMillisecond timeOfDay
  rw [hutc]
  unfold microsecondsPerDay microsecondsPerHour microsecondsPerMinute microsecondsPerSecond
  dsimp only [Option.getD, Offset.utc]
  omega

theorem utcText_toMillisecond (u : Moment) : u.toMillisecond.utcText = u.utcText := by
  unfold utcText toMillisecond clockText
  dsimp only
  rw [Nat.mul_div_cancel _ (by decide)]

/-! ## 4. Reading timestamps -/

/-- A number of digits at the front, and what follows the character that ends them. -/
def field? (width : Nat) (close : Char) (cs : List Char) : Option (Nat × List Char) :=
  match cs.drop width with
  | c :: rest =>
    if c = close ∧ (cs.take width).all Char.isDigit then
      some (Numeral.value (cs.take width), rest)
    else none
  | [] => none

/-- The moment in UTC that a timestamp shows: a year, the other fields with all their digits, and
the letter `Z`. -/
def ofStamp? (s : String) : Option Moment := do
  let cs := s.toList
  let (year, cs) ← field? (cs.takeWhile Char.isDigit).length '-' cs
  let (month, cs) ← field? 2 '-' cs
  let (day, cs) ← field? 2 'T' cs
  let (hour, cs) ← field? 2 ':' cs
  let (minute, cs) ← field? 2 ':' cs
  let (second, cs) ← field? 2 '.' cs
  let (millisecond, cs) ← field? 3 'Z' cs
  if cs.isEmpty then
    some ⟨⟨year, month, day⟩, hour, minute, second, millisecond * 1000, some .utc⟩
  else none

theorem field?_append {ds : List Char} (close : Char) (rest : List Char)
    (hds : ∀ c ∈ ds, c.isDigit = true) :
    field? ds.length close (ds ++ close :: rest) = some (Numeral.value ds, rest) := by
  unfold field?
  rw [List.drop_left, List.take_left]
  exact if_pos ⟨rfl, List.all_eq_true.mpr hds⟩

theorem toList_zeroPadded (width n : Nat) :
    (Decimal.zeroPadded width n).toList
      = List.replicate (width - (Nat.toDigits 10 n).length) '0' ++ Nat.toDigits 10 n := by
  have hrepr : (toString n).toList = Nat.toDigits 10 n := Nat.toList_repr
  unfold Decimal.zeroPadded
  rw [String.toList_append, String.toList_ofList, ← String.length_toList, hrepr]

/-- A field of the width that its number needs is read back. -/
theorem field?_zeroPadded {width n : Nat} (close : Char) (rest : List Char) (hpos : 0 < width)
    (hn : n < 10 ^ width) :
    field? width close ((Decimal.zeroPadded width n).toList ++ close :: rest) = some (n, rest) := by
  have hlength : (Nat.toDigits 10 n).length ≤ width :=
    (Nat.length_toDigits_le_iff (by decide) hpos).mpr hn
  have hdigits : ∀ c ∈ (Decimal.zeroPadded width n).toList, c.isDigit = true := by
    rw [toList_zeroPadded]
    intro c hc
    rcases List.mem_append.mp hc with hzero | hdigit
    · exact List.eq_of_mem_replicate hzero ▸ rfl
    · exact Json.isDigit_toDigits hdigit
  have hwidth : (Decimal.zeroPadded width n).toList.length = width := by
    rw [toList_zeroPadded, List.length_append, List.length_replicate]
    omega
  have hvalue : Numeral.value (Decimal.zeroPadded width n).toList = n := by
    rw [toList_zeroPadded]
    exact (Json.digitsValue_zeros_append _ _).trans (Json.digitsValue_toDigits n)
  have hread := field?_append close rest hdigits
  rwa [hwidth, hvalue] at hread

/-- The digits of the year end at the first hyphen. -/
theorem takeWhile_year (year : Nat) (rest : List Char) :
    ((Nat.toDigits 10 year ++ '-' :: rest).takeWhile Char.isDigit).length
      = (Nat.toDigits 10 year).length := by
  rw [List.takeWhile_append_of_pos fun c hc => Json.isDigit_toDigits hc]
  simp

/-- **What is written is read back**, to the millisecond. -/
theorem ofStamp?_utcText {u : Moment} (hu : u.IsValid) (hutc : u.offset = some .utc) :
    ofStamp? u.utcText = some u.toMillisecond := by
  obtain ⟨⟨year, month, day⟩, hour, minute, second, microsecond, offset⟩ := u
  obtain ⟨⟨-, -, -, hmonth, -, hday⟩, hhour, hminute, hsecond, hmicrosecond, -⟩ := hu
  dsimp only at hmonth hday hhour hminute hsecond hmicrosecond hutc
  subst hutc
  have hmost := Date.daysInMonth_le year month
  have htext : (utcText ⟨⟨year, month, day⟩, hour, minute, second, microsecond, some .utc⟩).toList
      = Nat.toDigits 10 year ++ '-' :: ((Decimal.zeroPadded 2 month).toList ++
        '-' :: ((Decimal.zeroPadded 2 day).toList ++ 'T' :: ((Decimal.zeroPadded 2 hour).toList ++
        ':' :: ((Decimal.zeroPadded 2 minute).toList ++
        ':' :: ((Decimal.zeroPadded 2 second).toList ++
        '.' :: ((Decimal.zeroPadded 3 (microsecond / 1000)).toList ++ 'Z' :: [])))))) := by
    have hyear : (toString year).toList = Nat.toDigits 10 year := Nat.toList_repr
    simp only [utcText, clockText, String.toList_append, hyear,
      show "-".toList = ['-'] from rfl, show "T".toList = ['T'] from rfl,
      show ":".toList = [':'] from rfl, show ".".toList = ['.'] from rfl,
      show "Z".toList = ['Z'] from rfl, List.cons_append, List.nil_append, List.append_assoc]
  have hfirst : ∀ rest : List Char,
      field? (Nat.toDigits 10 year).length '-' (Nat.toDigits 10 year ++ '-' :: rest)
        = some (year, rest) := by
    intro rest
    rw [field?_append _ _ fun c hc => Json.isDigit_toDigits hc]
    exact congrArg (fun n => some (n, rest)) (Json.digitsValue_toDigits year)
  unfold ofStamp?
  rw [htext]
  simp only [takeWhile_year, hfirst, Option.bind_eq_bind, Option.bind_some]
  rw [field?_zeroPadded '-' _ (by decide) (by omega), Option.bind_some,
    field?_zeroPadded 'T' _ (by decide) (by omega), Option.bind_some,
    field?_zeroPadded ':' _ (by decide) (by omega), Option.bind_some,
    field?_zeroPadded ':' _ (by decide) (by omega), Option.bind_some,
    field?_zeroPadded '.' _ (by decide) (by omega), Option.bind_some,
    field?_zeroPadded 'Z' _ (by decide) (by omega), Option.bind_some]
  rfl

end Moment

/-! ## 5. Timestamps of clocks -/

namespace Clock

open Moment

theorem stamp_at (t : Moment) :
    (Clock.at t).stamp = (t.toUtc?.map utcText).elim (.error .outOfRange) .ok := by
  unfold Clock.stamp Moment.stamp?
  dsimp only
  cases t.toUtc? <;> rfl

theorem stamp_eq_ok_iff {t : Moment} (ht : t.IsValid) {s : String} :
    (Clock.at t).stamp = .ok s ↔ ∃ u : Moment, u.IsUtcOf t ∧ u.utcText = s := by
  simp only [← toUtc?_eq_some_iff ht]
  rw [stamp_at]
  cases t.toUtc? <;> simp

theorem stamp_eq_error_iff {t : Moment} (ht : t.IsValid) :
    (Clock.at t).stamp = .error .outOfRange ↔ ¬ ∃ u : Moment, u.IsUtcOf t := by
  simp only [← toUtc?_eq_some_iff ht]
  rw [stamp_at]
  cases t.toUtc? <;> simp

/-- Moments of one millisecond have one text. -/
theorem utcText_eq_iff {t t' u u' : Moment} (hu : u.IsUtcOf t) (hu' : u'.IsUtcOf t') :
    u.utcText = u'.utcText ↔ t.elapsed / 1000 = t'.elapsed / 1000 := by
  have hfloor := elapsed_toMillisecond hu.utc
  have hfloor' := elapsed_toMillisecond hu'.utc
  rw [hu.same] at hfloor
  rw [hu'.same] at hfloor'
  constructor
  · intro h
    have hread := ofStamp?_utcText hu.valid hu.utc
    rw [h, ofStamp?_utcText hu'.valid hu'.utc, Option.some.injEq] at hread
    rw [hread] at hfloor'
    omega
  · intro h
    have hsame : u.toMillisecond = u'.toMillisecond :=
      eq_of_elapsed (isValid_toMillisecond hu.valid) (isValid_toMillisecond hu'.valid) hu.utc
        hu'.utc (by omega)
    rw [← utcText_toMillisecond u, hsame, utcText_toMillisecond]

/-- **A timestamp denotes the instant** of its moment, rounded down to the millisecond, and there is
one exactly if the years 1 to 9999 in UTC have that instant.  So two moments have the same timestamp
exactly if their instants agree up to the millisecond. -/
theorem stamp_denotes {t : Moment} (ht : t.IsValid) :
    ((Clock.at t).stamp = .error .outOfRange ↔ ¬ ∃ u : Moment, u.IsUtcOf t) ∧
    ((∃ u : Moment, u.IsUtcOf t) → ∃ s u, (Clock.at t).stamp = .ok s ∧ ofStamp? s = some u ∧
      u.IsValid ∧ u.offset = some .utc ∧ u.elapsed = t.elapsed / 1000 * 1000) ∧
    ∀ t' : Moment, t'.IsValid → ∀ s s', (Clock.at t).stamp = .ok s → (Clock.at t').stamp = .ok s' →
      (s = s' ↔ t.elapsed / 1000 = t'.elapsed / 1000) := by
  refine ⟨stamp_eq_error_iff ht, ?_, ?_⟩
  · rintro ⟨u, hu⟩
    refine ⟨u.utcText, u.toMillisecond, (stamp_eq_ok_iff ht).mpr ⟨u, hu, rfl⟩,
      ofStamp?_utcText hu.valid hu.utc, isValid_toMillisecond hu.valid, hu.utc, ?_⟩
    rw [elapsed_toMillisecond hu.utc, hu.same]
  · intro t' ht' s s' hs hs'
    obtain ⟨u, hu, rfl⟩ := (stamp_eq_ok_iff ht).mp hs
    obtain ⟨u', hu', rfl⟩ := (stamp_eq_ok_iff ht').mp hs'
    exact utcText_eq_iff hu hu'

/-- Half a millisecond into March, on a clock that is a little more than that ahead of UTC, it is
still February. -/
def nearlyMarch : Moment := ⟨⟨2024, 3, 1⟩, 0, 0, 0, 500, some ⟨501⟩⟩

/-- The last millisecond of that February, on a clock that does not say where it is. -/
def lastOfFebruary : Moment := ⟨⟨2024, 2, 29⟩, 23, 59, 59, 999000, none⟩

theorem stamp_denotes_nearlyMarch :
    (Clock.at nearlyMarch).stamp = .ok "2024-02-29T23:59:59.999Z" ∧
      (∃ u, ofStamp? "2024-02-29T23:59:59.999Z" = some u ∧
        u.elapsed = nearlyMarch.elapsed / 1000 * 1000) ∧
      nearlyMarch.elapsed / 1000 = lastOfFebruary.elapsed / 1000 := by
  have hvalid : nearlyMarch.IsValid := by decide
  have hvalid' : lastOfFebruary.IsValid := by decide
  have hstamp : (Clock.at nearlyMarch).stamp = .ok "2024-02-29T23:59:59.999Z" := by decide +kernel
  have hstamp' : (Clock.at lastOfFebruary).stamp = .ok "2024-02-29T23:59:59.999Z" := by
    decide +kernel
  obtain ⟨herror, hok, hsame⟩ := stamp_denotes hvalid
  have hutc : ∃ u : Moment, u.IsUtcOf nearlyMarch := by
    by_contra hnone
    rw [herror.mpr hnone] at hstamp
    cases hstamp
  obtain ⟨s, u, hs, hread, -, -, helapsed⟩ := hok hutc
  rw [hstamp] at hs
  cases hs
  exact ⟨hstamp, ⟨u, hread, helapsed⟩, (hsame _ hvalid' _ _ hstamp hstamp').mp rfl⟩

end Clock

end Schemata
