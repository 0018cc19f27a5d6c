import RowAccess.Proofs.Store.Rows
import RowAccess.Proofs.Time.Calendar

/-!
Contract: a stored instant is the instant that was stored.

The calendar's limits in nanoseconds are those of its years. The counts that can be
stored are those of signed 64-bit integers, and the calendar has a date for each of
them, so every such integer is decoded, and what could be encoded is decoded to the
same instant in UTC. A credential with it expires when it did.

Owns:
- the calendar's limits in years, in days and in nanoseconds.
- the range of stored instants as a machine integer's.
- the round trips of stored instants at their limits.
-/

namespace RowAccess.Timestamp

variable {nanos : Int}

theorem representable_iff_days : Representable nanos ↔
    CalendarDate.toDays ⟨-9999, 1, 1⟩ ≤
        nanos / Instant.nanosPerSecond / CalendarDate.secondsPerDay ∧
      nanos / Instant.nanosPerSecond / CalendarDate.secondsPerDay <
        CalendarDate.toDays ⟨10000, 1, 1⟩ := by
  unfold Representable leastSecond endSecond Instant.nanosPerSecond CalendarDate.secondsPerDay
  omega

/-- The calendar has a date for a count of nanoseconds if its year lies within the limits. -/
theorem representable_iff_year : Representable nanos ↔
    -9999 ≤ (Instant.ofNanosUtc nanos).localDate.year ∧
      (Instant.ofNanosUtc nanos).localDate.year ≤ 9999 := by
  have date : (Instant.ofNanosUtc nanos).localDate =
      CalendarDate.ofDays (nanos / Instant.nanosPerSecond / CalendarDate.secondsPerDay) := by
    rw [Instant.localDate, Instant.localSeconds, Instant.seconds, Instant.ofNanosUtc, add_zero]
  have notEarlier : -9999 ≤ (Instant.ofNanosUtc nanos).localDate.year ↔
      ¬ (Instant.ofNanosUtc nanos).localDate.year ≤ -10000 := by omega
  rw [notEarlier, date, CalendarDate.year_ofDays_le_iff, CalendarDate.year_ofDays_le_iff,
    representable_iff_days, not_lt]
  rfl

theorem representable_ofNanosUtc (representable : Representable nanos) :
    (Instant.ofNanosUtc nanos).Representable := by
  obtain ⟨year_ge, year_le⟩ := representable_iff_year.1 representable
  have offset_gt : -93600 < (0 : Int) := by decide
  have offset_lt : (0 : Int) < 93600 := by decide
  exact ⟨year_ge, year_le, offset_gt, offset_lt⟩

theorem decode_eq_ok {instant : Instant} (decoded : decode nanos = .ok instant) :
    Representable nanos ∧ instant = Instant.ofNanosUtc nanos := by
  unfold decode at decoded
  by_cases representable : Representable nanos
  · rw [if_pos representable] at decoded
    exact ⟨representable, (Except.ok.inj decoded).symm⟩
  · rw [if_neg representable] at decoded
    cases decoded

theorem inRange_iff_exists_int64 : InRange nanos ↔ ∃ stored : Int64, stored.toInt = nanos := by
  constructor
  · intro inRange
    exact ⟨Int64.ofInt nanos, Int64.toInt_ofInt_of_le inRange.1 inRange.2⟩
  · rintro ⟨stored, rfl⟩
    exact ⟨stored.le_toInt, stored.toInt_lt⟩

theorem encode_eq_ok {time : Instant} (encoded : encode time = .ok nanos) :
    InRange time.nanos ∧ nanos = time.nanos := by
  by_cases inRange : InRange time.nanos
  · rw [encode_of_inRange inRange] at encoded
    exact ⟨inRange, (Except.ok.inj encoded).symm⟩
  · rw [encode_of_not_inRange inRange] at encoded
    cases encoded

/-- Whether one time is another one in UTC, as a stored expiry is the original one. -/
structure Restores (time restored : Instant) : Prop where
  instant : restored.nanos = time.nanos
  utc : restored.offset = 0
  representable : restored.Representable
  expires (credential : Credential) (now : Instant) :
    { credential with expiresAt := restored }.isExpired now =
      { credential with expiresAt := time }.isExpired now

theorem restores_utc {time : Instant} (inRange : InRange time.nanos) :
    Restores time time.utc where
  instant := rfl
  utc := rfl
  representable := representable_ofNanosUtc (representable_of_inRange inRange)
  expires _ _ := rfl

/-- Every signed 64-bit integer is a stored instant that is decoded, in UTC, and encoded
again as it was. Exactly the times that such an integer counts are encoded, and they are
decoded to the same instant. -/
theorem stored_instants_round_trip :
    (∀ stored : Int64, ∃ instant, decode stored.toInt = .ok instant ∧ instant.Representable ∧
      instant.offset = 0 ∧ encode instant = .ok stored.toInt) ∧
    (∀ time, (∃ nanos, encode time = .ok nanos) ↔ ∃ stored : Int64, stored.toInt = time.nanos) ∧
    ∀ time nanos, encode time = .ok nanos →
      ∃ restored, decode nanos = .ok restored ∧ Restores time restored := by
  refine ⟨fun stored => ?_, fun time => ?_, fun time nanos encoded => ?_⟩
  · have inRange : InRange (Instant.ofNanosUtc stored.toInt).nanos :=
      inRange_iff_exists_int64.2 ⟨stored, rfl⟩
    exact ⟨_, decode_of_inRange inRange, (restores_utc inRange).representable, rfl,
      encode_of_inRange inRange⟩
  · rw [← inRange_iff_exists_int64]
    constructor
    · rintro ⟨nanos, encoded⟩
      exact (encode_eq_ok encoded).1
    · intro inRange
      exact ⟨time.nanos, encode_of_inRange inRange⟩
  · obtain ⟨inRange, rfl⟩ := encode_eq_ok encoded
    exact ⟨time.utc, decode_of_inRange inRange, restores_utc inRange⟩

/-- The last instant that can be stored, shown one day earlier where it was written. -/
theorem last_instant_restores :
    encode ⟨9223372036854775807, -86340⟩ = .ok 9223372036854775807 ∧
      (Instant.mk 9223372036854775807 (-86340)).localDate = ⟨2262, 4, 10⟩ ∧
      ∃ restored, decode 9223372036854775807 = .ok restored ∧
        Restores ⟨9223372036854775807, -86340⟩ restored :=
  ⟨by decide, by decide,
    stored_instants_round_trip.2.2 ⟨9223372036854775807, -86340⟩ 9223372036854775807 (by decide)⟩

end RowAccess.Timestamp
