import Mathlib.Tactic.IntervalCases
import Mathlib.Tactic.Ring
import RowAccess.Time.Instant

/-!
Contract: the calendar is the Gregorian one, in both directions of time.

Every day has a date that is valid by the rules of leap years and months, the date of
the next day is the one after it, and a day is found again from its date. The proofs
follow years that begin in March, whose last day may be the leap day. Such a year is
found in the cycle of 400 years by its century, its four years in the century and its
place among them.

Owns:
- leap years, the length of months, valid dates and the date after a date.
- the years that begin in March, and where they stand in their cycle.
- the dates of days, and the days of their years.
-/

namespace RowAccess

namespace CalendarDate

def IsLeap (year : Int) : Prop := year % 4 = 0 ∧ (year % 100 = 0 → year % 400 = 0)

instance (year : Int) : Decidable (IsLeap year) := by
  unfold IsLeap
  infer_instance

def daysInMonth (year month : Int) : Int :=
  if month = 2 then (if IsLeap year then 29 else 28)
  else if month = 4 ∨ month = 6 ∨ month = 9 ∨ month = 11 then 30
  else 31

theorem daysInMonth_le (year month : Int) : daysInMonth year month ≤ 31 := by
  unfold daysInMonth
  split
  · split
    · decide
    · decide
  · split
    · decide
    · decide

/-- Whether there is such a date. -/
structure Valid (date : CalendarDate) : Prop where
  month_pos : 1 ≤ date.month
  month_le : date.month ≤ 12
  day_pos : 1 ≤ date.day
  day_le : date.day ≤ daysInMonth date.year date.month

instance (date : CalendarDate) : Decidable date.Valid :=
  decidable_of_iff
    (1 ≤ date.month ∧ date.month ≤ 12 ∧ 1 ≤ date.day ∧
      date.day ≤ daysInMonth date.year date.month)
    ⟨fun each => ⟨each.1, each.2.1, each.2.2.1, each.2.2.2⟩,
      fun valid => ⟨valid.month_pos, valid.month_le, valid.day_pos, valid.day_le⟩⟩

/-- The date after a date. -/
def next (date : CalendarDate) : CalendarDate :=
  if date.day < daysInMonth date.year date.month then { date with day := date.day + 1 }
  else if date.month < 12 then ⟨date.year, date.month + 1, 1⟩
  else ⟨date.year + 1, 1, 1⟩

variable {century olympiad rest year month day : Int}

/-! ## Months counted from March -/

/-- The date of a day in a month of a year that begins in March. -/
def ofMarchMonth (year month day : Int) : CalendarDate :=
  if month < 10 then ⟨year, month + 3, day⟩ else ⟨year + 1, month - 9, day⟩

/-- The date of a day of a year that begins in March, where its first day is day zero. -/
def ofMarch (year day : Int) : CalendarDate :=
  ofMarchMonth year ((5 * day + 2) / 153) (day - (153 * ((5 * day + 2) / 153) + 2) / 5 + 1)

/-- Whether a year that begins in March has such a day. The day with number 365 is the
leap day of the calendar year that the year ends in. -/
structure IsMarchDay (year day : Int) : Prop where
  nonneg : 0 ≤ day
  le : day ≤ 365
  leap : day = 365 → IsLeap (year + 1)

theorem day_ofMarchMonth (year month day : Int) : (ofMarchMonth year month day).day = day := by
  unfold ofMarchMonth
  split
  · rfl
  · rfl

theorem month_ofMarchMonth (year month day : Int) :
    (ofMarchMonth year month day).month = if month < 10 then month + 3 else month - 9 := by
  unfold ofMarchMonth
  split
  · rfl
  · rfl

/-- All months but February end where the next one begins. -/
theorem daysInMonth_ofMarchMonth (nonneg : 0 ≤ month) (below : month < 11) (year day : Int) :
    daysInMonth (ofMarchMonth year month day).year (ofMarchMonth year month day).month =
      (153 * (month + 1) + 2) / 5 - (153 * month + 2) / 5 := by
  unfold ofMarchMonth daysInMonth
  interval_cases month <;> norm_num

theorem daysInMonth_february (year day : Int) :
    daysInMonth (ofMarchMonth year 11 day).year (ofMarchMonth year 11 day).month =
      if IsLeap (year + 1) then 29 else 28 := rfl

theorem next_ofMarchMonth_of_lt
    (more : day < daysInMonth (ofMarchMonth year month day).year
      (ofMarchMonth year month day).month) :
    (ofMarchMonth year month day).next = ofMarchMonth year month (day + 1) := by
  unfold next
  rw [day_ofMarchMonth, if_pos more]
  unfold ofMarchMonth
  split
  · rfl
  · rfl

theorem next_ofMarchMonth_of_ge (nonneg : 0 ≤ month) (below : month < 11)
    (last : ¬ day < daysInMonth (ofMarchMonth year month day).year
      (ofMarchMonth year month day).month) :
    (ofMarchMonth year month day).next = ofMarchMonth year (month + 1) 1 := by
  unfold next
  rw [day_ofMarchMonth, if_neg last]
  unfold ofMarchMonth
  interval_cases month <;> rfl

theorem valid_ofMarch (isDay : IsMarchDay year day) : (ofMarch year day).Valid := by
  obtain ⟨nonneg, le, leap⟩ := isDay
  unfold ofMarch
  obtain ⟨month, monthEq⟩ : ∃ month, month = (5 * day + 2) / 153 := ⟨_, rfl⟩
  rw [← monthEq]
  have monthNonneg : 0 ≤ month := by omega
  have monthLe : month ≤ 11 := by omega
  refine ⟨?_, ?_, ?_, ?_⟩
  · rw [month_ofMarchMonth]
    omega
  · rw [month_ofMarchMonth]
    omega
  · rw [day_ofMarchMonth]
    omega
  · rw [day_ofMarchMonth]
    by_cases february : month = 11
    · rw [february, daysInMonth_february]
      by_cases isLeap : IsLeap (year + 1)
      · rw [if_pos isLeap]
        omega
      · have common : day ≠ 365 := fun last => isLeap (leap last)
        rw [if_neg isLeap]
        omega
    · rw [daysInMonth_ofMarchMonth monthNonneg (by omega)]
      omega

/-- Within a year that begins in March, the next day has the next date. -/
theorem next_ofMarch (nonneg : 0 ≤ day) (more : IsMarchDay year (day + 1)) :
    (ofMarch year day).next = ofMarch year (day + 1) := by
  obtain ⟨_, le, leap⟩ := more
  unfold ofMarch
  obtain ⟨month, monthEq⟩ : ∃ month, month = (5 * day + 2) / 153 := ⟨_, rfl⟩
  obtain ⟨later, laterEq⟩ : ∃ later, later = (5 * (day + 1) + 2) / 153 := ⟨_, rfl⟩
  rw [← monthEq, ← laterEq]
  have monthNonneg : 0 ≤ month := by omega
  have monthLe : month ≤ 11 := by omega
  by_cases february : month = 11
  · have same : later = 11 := by omega
    have more : day - (153 * 11 + 2) / 5 + 1 < if IsLeap (year + 1) then 29 else 28 := by
      by_cases isLeap : IsLeap (year + 1)
      · rw [if_pos isLeap]
        omega
      · have common : day + 1 ≠ 365 := fun last => isLeap (leap last)
        rw [if_neg isLeap]
        omega
    rw [same, february, next_ofMarchMonth_of_lt (by rwa [daysInMonth_february])]
    congr 1
    omega
  · have below : month < 11 := by omega
    have length := daysInMonth_ofMarchMonth monthNonneg below year
      (day - (153 * month + 2) / 5 + 1)
    by_cases same : later = month
    · rw [same, next_ofMarchMonth_of_lt (by omega)]
      congr 1
      omega
    · have following : later = month + 1 := by omega
      rw [following, next_ofMarchMonth_of_ge monthNonneg below (by omega)]
      congr 1
      omega

/-- The last day of a year that begins in March is the leap day, if there is one. -/
theorem IsMarchDay.eq_of_last (isDay : IsMarchDay year day)
    (last : ¬ IsMarchDay year (day + 1)) : day = if IsLeap (year + 1) then 365 else 364 := by
  obtain ⟨nonneg, le, leap⟩ := isDay
  by_cases isLeap : IsLeap (year + 1)
  · have atEnd : ¬ day ≤ 364 := fun earlier => last ⟨by omega, by omega, fun _ => isLeap⟩
    rw [if_pos isLeap]
    omega
  · have common : day ≠ 365 := fun leapDay => isLeap (leap leapDay)
    have atEnd : ¬ day < 364 := fun earlier => last ⟨by omega, by omega, by omega⟩
    rw [if_neg isLeap]
    omega

/-- It is followed by the first of March. -/
theorem next_ofMarch_of_last (isDay : IsMarchDay year day)
    (last : ¬ IsMarchDay year (day + 1)) : (ofMarch year day).next = ofMarch (year + 1) 0 := by
  have isLast : (5 * day + 2) / 153 = 11 ∧
      ¬ day - (153 * 11 + 2) / 5 + 1 < if IsLeap (year + 1) then 29 else 28 := by
    rw [isDay.eq_of_last last]
    split
    · decide
    · decide
  unfold ofMarch next
  rw [isLast.1, day_ofMarchMonth, daysInMonth_february, if_neg isLast.2]
  rfl

/-! ## The cycle of 400 years -/

/-- The days from the epoch to the first of March of a year. -/
def marchDays (year : Int) : Int := 365 * year + year / 4 - year / 100 + year / 400 - epochShift

/-- Where a day stands in a cycle: how many centuries have passed in the cycle, spans of
four years in the century, years in the span and days in the year. -/
structure IsPlace (century olympiad rest day : Int) : Prop where
  century_nonneg : 0 ≤ century
  century_le : century ≤ 3
  olympiad_nonneg : 0 ≤ olympiad
  olympiad_le : olympiad ≤ 24
  rest_nonneg : 0 ≤ rest
  rest_le : rest ≤ 3
  day_nonneg : 0 ≤ day
  day_le : day ≤ 365
  leap : day = 365 → rest = 3 ∧ (olympiad = 24 → century = 3)

/-- The number of a day in its cycle. -/
def placeDay (century olympiad rest day : Int) : Int :=
  36524 * century + 1461 * olympiad + 365 * rest + day

/-- The number of a year in its cycle. -/
def placeYear (century olympiad rest : Int) : Int := 100 * century + 4 * olympiad + rest

namespace IsPlace

theorem placeDay_mem (place : IsPlace century olympiad rest day) :
    0 ≤ placeDay century olympiad rest day ∧
      placeDay century olympiad rest day < daysPerCycle := by
  obtain ⟨_, _, _, _, _, _, _, _, _⟩ := place
  unfold placeDay daysPerCycle
  omega

/-- Without the leap days before it, a day of the cycle is found in its year. -/
theorem yearOfCycle_eq (place : IsPlace century olympiad rest day) {dayOfCycle : Int}
    (placed : dayOfCycle = placeDay century olympiad rest day) :
    (dayOfCycle - dayOfCycle / 1460 + dayOfCycle / 36524 - dayOfCycle / 146096) / 365 =
      placeYear century olympiad rest := by
  obtain ⟨_, _, _, _, _, _, _, _, _⟩ := place
  unfold placeDay at placed
  unfold placeYear
  by_cases isLast : dayOfCycle = 146096
  · rw [isLast] at placed ⊢
    omega
  · have cycles : dayOfCycle / 146096 = 0 := by omega
    have centuries : dayOfCycle / 36524 = century := by omega
    have olympiads : dayOfCycle / 1460 = 25 * century + olympiad ∨
        dayOfCycle / 1460 = 25 * century + olympiad + 1 := by omega
    rw [cycles, centuries]
    rcases olympiads with few | many
    · rw [few]
      omega
    · rw [many]
      omega

theorem dayOfYear_eq (place : IsPlace century olympiad rest day) :
    placeDay century olympiad rest day -
      (365 * placeYear century olympiad rest + placeYear century olympiad rest / 4 -
        placeYear century olympiad rest / 100) = day := by
  obtain ⟨_, _, _, _, _, _, _, _, _⟩ := place
  unfold placeDay placeYear
  have centuries : (100 * century + 4 * olympiad + rest) / 100 = century := by omega
  have olympiads : (100 * century + 4 * olympiad + rest) / 4 = 25 * century + olympiad := by
    omega
  rw [centuries, olympiads]
  omega

theorem marchDays_add (place : IsPlace century olympiad rest day) (cycle : Int) :
    marchDays (400 * cycle + placeYear century olympiad rest) + day + epochShift =
      daysPerCycle * cycle + placeDay century olympiad rest day := by
  obtain ⟨_, _, _, _, _, _, _, _, _⟩ := place
  obtain ⟨year, yearEq⟩ : ∃ year, year = 400 * cycle + placeYear century olympiad rest :=
    ⟨_, rfl⟩
  unfold placeYear at yearEq ⊢
  have cycles : year / 400 = cycle := by omega
  have centuries : year / 100 = 4 * cycle + century := by omega
  have olympiads : year / 4 = 100 * cycle + 25 * century + olympiad := by omega
  unfold marchDays daysPerCycle placeDay
  rw [← yearEq, cycles, centuries, olympiads, yearEq]
  ring

theorem isMarchDay (place : IsPlace century olympiad rest day) (cycle : Int) :
    IsMarchDay (400 * cycle + placeYear century olympiad rest) day := by
  obtain ⟨_, _, _, _, _, _, nonneg, le, leap⟩ := place
  refine ⟨nonneg, le, fun last => ?_⟩
  obtain ⟨_, _⟩ := leap last
  unfold IsLeap placeYear
  omega

end IsPlace

/-- Every day of a cycle has its place there. -/
theorem exists_place {dayOfCycle : Int} (nonneg : 0 ≤ dayOfCycle)
    (below : dayOfCycle < daysPerCycle) :
    ∃ century olympiad rest day, IsPlace century olympiad rest day ∧
      dayOfCycle = placeDay century olympiad rest day := by
  unfold daysPerCycle at below
  -- The last day of the cycle would begin another century, and the last one of four
  -- years another year.
  obtain ⟨century, centuryEq⟩ :
      ∃ century, century = (dayOfCycle - dayOfCycle / 146096) / 36524 := ⟨_, rfl⟩
  obtain ⟨inCentury, inCenturyEq⟩ : ∃ inCentury, inCentury = dayOfCycle - 36524 * century :=
    ⟨_, rfl⟩
  have centuryLe : 0 ≤ century ∧ century ≤ 3 := by omega
  have inCenturyLe : 0 ≤ inCentury ∧ inCentury ≤ 36524 ∧ (inCentury = 36524 → century = 3) := by
    omega
  clear centuryEq
  obtain ⟨olympiad, olympiadEq⟩ : ∃ olympiad, olympiad = inCentury / 1461 := ⟨_, rfl⟩
  obtain ⟨inOlympiad, inOlympiadEq⟩ : ∃ inOlympiad, inOlympiad = inCentury % 1461 := ⟨_, rfl⟩
  obtain ⟨rest, restEq⟩ : ∃ rest, rest = (inOlympiad - inOlympiad / 1460) / 365 := ⟨_, rfl⟩
  refine ⟨century, olympiad, rest, inOlympiad - 365 * rest, ?_, ?_⟩
  · constructor
    all_goals omega
  · unfold placeDay
    omega

/-- Every day of a year that begins in March has its place in a cycle. -/
theorem exists_place_of_isMarchDay (isDay : IsMarchDay year day) :
    ∃ cycle century olympiad rest, IsPlace century olympiad rest day ∧
      year = 400 * cycle + placeYear century olympiad rest := by
  obtain ⟨nonneg, le, leap⟩ := isDay
  refine ⟨year / 400, year % 400 / 100, year % 100 / 4, year % 4, ?_, ?_⟩
  · refine ⟨?_, ?_, ?_, ?_, ?_, ?_, nonneg, le, fun last => ?_⟩
    case refine_7 =>
      have isLeap := leap last
      unfold IsLeap at isLeap
      omega
    all_goals omega
  · unfold placeYear
    omega

theorem marchDays_succ (year : Int) :
    marchDays (year + 1) = marchDays year + if IsLeap (year + 1) then 366 else 365 := by
  unfold marchDays
  by_cases isLeap : IsLeap (year + 1)
  · rw [if_pos isLeap]
    unfold IsLeap at isLeap
    omega
  · rw [if_neg isLeap]
    unfold IsLeap at isLeap
    omega

/-! ## Days and dates -/

/-- Every day is one of a year that begins in March. -/
theorem exists_isMarchDay (days : Int) :
    ∃ year day, IsMarchDay year day ∧ days = marchDays year + day := by
  have cycleNonneg : 0 ≤ (days + epochShift) % daysPerCycle := Int.emod_nonneg _ (by decide)
  have cycleBelow : (days + epochShift) % daysPerCycle < daysPerCycle :=
    Int.emod_lt_of_pos _ (by decide)
  obtain ⟨century, olympiad, rest, day, place, placed⟩ := exists_place cycleNonneg cycleBelow
  refine ⟨_, day, place.isMarchDay ((days + epochShift) / daysPerCycle), ?_⟩
  have shifted := place.marchDays_add ((days + epochShift) / daysPerCycle)
  rw [← placed, Int.mul_ediv_add_emod] at shifted
  omega

theorem ofDays_marchDays (isDay : IsMarchDay year day) :
    ofDays (marchDays year + day) = ofMarch year day := by
  obtain ⟨cycle, century, olympiad, rest, place, yearEq⟩ := exists_place_of_isMarchDay isDay
  have shifted : placeDay century olympiad rest day + daysPerCycle * cycle =
      marchDays year + day + epochShift := by
    rw [yearEq, place.marchDays_add]
    ring
  have parts := (Int.ediv_emod_unique (show 0 < daysPerCycle by decide)).2
    ⟨shifted, place.placeDay_mem⟩
  obtain ⟨nonneg, le, _⟩ := isDay
  unfold ofDays ofMarch ofMarchMonth
  dsimp only
  rw [parts.1, parts.2, place.yearOfCycle_eq rfl, place.dayOfYear_eq, yearEq]
  by_cases early : (5 * day + 2) / 153 < 10
  · rw [if_pos early, if_pos early, if_neg (by omega), CalendarDate.mk.injEq]
    exact ⟨by ring, rfl, rfl⟩
  · rw [if_neg early, if_neg early, if_pos (by omega), CalendarDate.mk.injEq]
    exact ⟨by ring, rfl, rfl⟩

theorem toDays_ofMarch (isDay : IsMarchDay year day) :
    (ofMarch year day).toDays = marchDays year + day := by
  obtain ⟨nonneg, le, _⟩ := isDay
  have years : marchDays year = year / 400 * daysPerCycle +
      (365 * (year % 400) + year % 400 / 4 - year % 400 / 100) - epochShift := by
    unfold marchDays daysPerCycle
    omega
  unfold ofMarch ofMarchMonth toDays
  rw [years]
  by_cases early : (5 * day + 2) / 153 < 10
  · rw [if_pos early]
    dsimp only
    rw [if_neg (by omega), if_neg (by omega)]
    ring_nf
  · rw [if_neg early]
    dsimp only
    rw [if_pos (by omega), if_pos (by omega)]
    ring_nf

/-- The date of a day exists. -/
theorem valid_ofDays (days : Int) : (ofDays days).Valid := by
  obtain ⟨year, day, isDay, rfl⟩ := exists_isMarchDay days
  rw [ofDays_marchDays isDay]
  exact valid_ofMarch isDay

/-- A day is found again from its date. -/
theorem toDays_ofDays (days : Int) : (ofDays days).toDays = days := by
  obtain ⟨year, day, isDay, rfl⟩ := exists_isMarchDay days
  rw [ofDays_marchDays isDay, toDays_ofMarch isDay]

/-- The next day has the next date. -/
theorem ofDays_succ (days : Int) : ofDays (days + 1) = (ofDays days).next := by
  obtain ⟨year, day, isDay, rfl⟩ := exists_isMarchDay days
  rw [ofDays_marchDays isDay]
  by_cases more : IsMarchDay year (day + 1)
  · rw [next_ofMarch isDay.nonneg more, ← ofDays_marchDays more, add_assoc]
  · have begins : marchDays year + day + 1 = marchDays (year + 1) + 0 := by
      rw [marchDays_succ, isDay.eq_of_last more]
      split
      · ring
      · ring
    have isFirst : IsMarchDay (year + 1) 0 := ⟨by decide, by decide, by omega⟩
    rw [next_ofMarch_of_last isDay more, begins, ofDays_marchDays isFirst]

/-- The epoch is the first day of the year 1970. -/
theorem ofDays_zero : ofDays 0 = ⟨1970, 1, 1⟩ := by decide

/-! ## Years -/

theorem marchDays_mono {earlier later : Int} (le : earlier ≤ later) :
    marchDays earlier ≤ marchDays later := by
  unfold marchDays
  omega

theorem toDays_january (year : Int) : toDays ⟨year + 1, 1, 1⟩ = marchDays year + 306 := by
  unfold toDays marchDays daysPerCycle
  dsimp only
  rw [if_pos (by decide), if_pos (by decide)]
  omega

/-- A day lies in a year or before it if the next year begins after the day. -/
theorem year_ofDays_le_iff {days : Int} :
    (ofDays days).year ≤ year ↔ days < toDays ⟨year + 1, 1, 1⟩ := by
  obtain ⟨ofYear, day, isDay, rfl⟩ := exists_isMarchDay days
  rw [ofDays_marchDays isDay, toDays_january]
  obtain ⟨nonneg, le, _⟩ := isDay
  have yearEq : (ofMarch ofYear day).year = if day < 306 then ofYear else ofYear + 1 := by
    unfold ofMarch ofMarchMonth
    by_cases early : day < 306
    · rw [if_pos early, if_pos (by omega)]
    · rw [if_neg early, if_neg (by omega)]
  have length := marchDays_succ ofYear
  have lengthOf := marchDays_succ year
  rw [yearEq]
  rcases lt_trichotomy ofYear year with before | rfl | after
  · have later := marchDays_mono (show ofYear + 1 ≤ year by omega)
    split at length <;> split <;> omega
  · split <;> omega
  · have later := marchDays_mono (show year + 1 ≤ ofYear by omega)
    split at lengthOf <;> split <;> omega

end CalendarDate

/-! ## Instants -/

namespace Instant

/-- Whether there is such an instant: its local date lies in the years from -9999 to 9999,
and its offset is shorter than 26 hours. -/
structure Representable (instant : Instant) : Prop where
  year_ge : -9999 ≤ instant.localDate.year
  year_le : instant.localDate.year ≤ 9999
  offset_gt : -93600 < instant.offset
  offset_lt : instant.offset < 93600

instance (instant : Instant) : Decidable instant.Representable :=
  decidable_of_iff
    (-9999 ≤ instant.localDate.year ∧ instant.localDate.year ≤ 9999 ∧
      -93600 < instant.offset ∧ instant.offset < 93600)
    ⟨fun each => ⟨each.1, each.2.1, each.2.2.1, each.2.2.2⟩,
      fun shown => ⟨shown.year_ge, shown.year_le, shown.offset_gt, shown.offset_lt⟩⟩

theorem valid_localDate (instant : Instant) : instant.localDate.Valid :=
  CalendarDate.valid_ofDays _

theorem secondOfDay_mem (instant : Instant) :
    0 ≤ instant.secondOfDay ∧ instant.secondOfDay < CalendarDate.secondsPerDay :=
  ⟨Int.emod_nonneg _ (by decide), Int.emod_lt_of_pos _ (by decide)⟩

theorem subsecond_mem (instant : Instant) :
    0 ≤ instant.subsecond ∧ instant.subsecond < nanosPerSecond :=
  ⟨Int.emod_nonneg _ (by decide), Int.emod_lt_of_pos _ (by decide)⟩

/-- The instant of a local date, a time of day in seconds and a fraction of a second. -/
def ofLocal (date : CalendarDate) (secondOfDay nanosecond offset : Int) : Instant where
  nanos := (date.toDays * CalendarDate.secondsPerDay + secondOfDay - offset) * nanosPerSecond +
    nanosecond
  offset := offset

/-- An instant is found again from its local date and time. -/
theorem ofLocal_localDate (instant : Instant) :
    ofLocal instant.localDate instant.secondOfDay instant.subsecond instant.offset = instant := by
  have clock : instant.localDate.toDays * CalendarDate.secondsPerDay + instant.secondOfDay =
      instant.localSeconds := by
    unfold localDate secondOfDay
    rw [CalendarDate.toDays_ofDays]
    exact Int.ediv_mul_add_emod _ _
  have count : instant.seconds * nanosPerSecond + instant.subsecond = instant.nanos :=
    Int.ediv_mul_add_emod _ _
  unfold ofLocal
  rw [clock, localSeconds, add_sub_cancel_right, count]

end Instant

end RowAccess
