import RowAccess.Store.Error
import RowAccess.Time.Instant

/-!
Contract: instants as stored integers.

An instant is stored as nanoseconds from the epoch in a signed 64-bit integer
and comes back in UTC. The calendar of instants runs from the year -9999 to
the year 9999, which every such integer lies well inside.

Owns:
- the range of stored instants and both conversions.
-/

namespace RowAccess.Timestamp

/-- Whether a count of nanoseconds can be stored. -/
def InRange (nanos : Int) : Prop := -Int.pow 2 63 ≤ nanos ∧ nanos < Int.pow 2 63

instance (nanos : Int) : Decidable (InRange nanos) := by
  unfold InRange
  infer_instance

/-- The first second of the year -9999. -/
def leastSecond : Int := CalendarDate.toDays ⟨-9999, 1, 1⟩ * CalendarDate.secondsPerDay

/-- The second after the year 9999. -/
def endSecond : Int := CalendarDate.toDays ⟨10000, 1, 1⟩ * CalendarDate.secondsPerDay

/-- Whether the calendar has a date for a count of nanoseconds. -/
def Representable (nanos : Int) : Prop :=
  leastSecond * Instant.nanosPerSecond ≤ nanos ∧ nanos < endSecond * Instant.nanosPerSecond

instance (nanos : Int) : Decidable (Representable nanos) := by
  unfold Representable
  infer_instance

def encode (instant : Instant) : Except StoreError Int :=
  if InRange instant.nanos then .ok instant.nanos
  else .error ⟨.invalid, "timestamp out of range"⟩

def decode (nanos : Int) : Except StoreError Instant :=
  if Representable nanos then .ok (Instant.ofNanosUtc nanos)
  else .error ⟨.corrupt, "invalid timestamp " ++ toString nanos⟩

end RowAccess.Timestamp
