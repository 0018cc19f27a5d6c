import RowAccess.Proofs.Store.Timestamp
import RowAccess.Time.Expiry

/-!
Contract: the text of an expiry is read back by its published pattern.

A pattern has a per cent sign before the letter of each part and everything else as it
stands. What is read has to be a date and a time of day that exist. Reading the text of
an expiry with an offset of whole minutes gives the offset and the instant again, but
for what is finer than a microsecond, so instants with one text are that close.

Owns:
- the reading of a text along a pattern.
- the digits of numbers with zeros in front of them, and how parts of a time are read.
- the round trip of expiries.
-/

namespace RowAccess

/-! ## Reading along a pattern -/

/-- What has been read of a local time. -/
structure TimeReading where
  year : Int
  month : Int
  day : Int
  hour : Int
  minute : Int
  second : Int
  microsecond : Int
  offset : Int
deriving DecidableEq, Repr

namespace TimeReading

/-- What is assumed of the parts that a pattern does not have. -/
def start : TimeReading := ⟨1900, 1, 1, 0, 0, 0, 0, 0⟩

/-- The number that exactly so many digits write, and what follows them. -/
def number? (width : Nat) (text : List Char) : Option (Int × List Char) :=
  if (text.take width).length = width ∧ (text.take width).all Char.isDigit then
    some ((Nat.ofDigitChars 10 (text.take width) 0 : Nat), text.drop width)
  else none

/-- The number of at least four digits, all there are, and what follows them. -/
def unsignedYear? (text : List Char) : Option (Int × List Char) :=
  if 4 ≤ (text.takeWhile Char.isDigit).length then
    some ((Nat.ofDigitChars 10 (text.takeWhile Char.isDigit) 0 : Nat),
      text.dropWhile Char.isDigit)
  else none

/-- A year, which may have a sign. -/
def year? : List Char → Option (Int × List Char)
  | '-' :: text => (unsignedYear? text).map (fun read => (-read.1, read.2))
  | '+' :: text => unsignedYear? text
  | text => unsignedYear? text

/-- An offset in seconds: a sign, two digits of hours and two of minutes. -/
def offset? : List Char → Option (Int × List Char)
  | [] => none
  | sign :: text => do
      let (hours, text) ← number? 2 text
      let (minutes, text) ← number? 2 text
      if 60 ≤ minutes then none
      else if sign = '+' then some (hours * 3600 + minutes * 60, text)
      else if sign = '-' then some (-(hours * 3600 + minutes * 60), text)
      else none

/-- How many digits the number has that a letter stands for, and what it is the number of. -/
def numbered? : Char → Option (Nat × (Int → TimeReading → TimeReading))
  | 'm' => some (2, fun value reading => { reading with month := value })
  | 'd' => some (2, fun value reading => { reading with day := value })
  | 'H' => some (2, fun value reading => { reading with hour := value })
  | 'M' => some (2, fun value reading => { reading with minute := value })
  | 'S' => some (2, fun value reading => { reading with second := value })
  | 'f' => some (6, fun value reading => { reading with microsecond := value })
  | _ => none

/-- Reads the part that a letter stands for. -/
def part? (letter : Char) (text : List Char) (reading : TimeReading) :
    Option (TimeReading × List Char) :=
  if letter = 'Y' then
    (year? text).map (fun read => ({ reading with year := read.1 }, read.2))
  else if letter = 'z' then
    (offset? text).map (fun read => ({ reading with offset := read.1 }, read.2))
  else
    (numbered? letter).bind (fun part =>
      (number? part.1 text).map (fun read => (part.2 read.1 reading, read.2)))

/-- Reads a text from its beginning to its end along a pattern. -/
def along? : List Char → List Char → TimeReading → Option TimeReading
  | [], [], reading => some reading
  | '%' :: letter :: pattern, text, reading =>
      (part? letter text reading).bind (fun read => along? pattern read.2 read.1)
  | expected :: pattern, first :: text, reading =>
      if expected = first then along? pattern text reading else none
  | _, _, _ => none

/-- The instant that was read, if there is such a date and such a time of day. -/
def instant? (reading : TimeReading) : Option Instant :=
  if (CalendarDate.mk reading.year reading.month reading.day).Valid ∧
      reading.hour < 24 ∧ reading.minute < 60 ∧ reading.second < 60 then
    some (Instant.ofLocal ⟨reading.year, reading.month, reading.day⟩
      (reading.hour * 3600 + reading.minute * 60 + reading.second)
      (reading.microsecond * 1000) reading.offset)
  else none

end TimeReading

/-- Reads an instant along a pattern. -/
def Instant.read? (pattern text : String) : Option Instant :=
  (TimeReading.along? pattern.toList text.toList TimeReading.start).bind TimeReading.instant?

/-! ## Digits -/

namespace Instant

variable {width : Nat} {value : Int}

theorem toList_padded (width : Nat) (value : Int) :
    (padded width value).toList =
      List.replicate (width - (Nat.toDigits 10 value.natAbs).length) '0' ++
        Nat.toDigits 10 value.natAbs := by
  unfold padded
  rw [String.toList_append, String.toList_ofList, Nat.toList_repr, ← String.length_toList,
    Nat.toList_repr]

theorem length_padded (pos : 0 < width) (below : value.natAbs < 10 ^ width) :
    (padded width value).toList.length = width := by
  have fits := (Nat.length_toDigits_le_iff (by decide) pos).2 below
  rw [toList_padded, List.length_append, List.length_replicate]
  omega

theorem isDigit_padded (width : Nat) (value : Int) :
    (padded width value).toList.all Char.isDigit = true := by
  rw [toList_padded, List.all_append, Bool.and_eq_true, List.all_eq_true, List.all_eq_true]
  refine ⟨fun character member => ?_, fun character member => ?_⟩
  · rw [List.eq_of_mem_replicate member]
    rfl
  · exact Nat.isDigit_of_mem_toDigits (by decide) (by decide) member

theorem ofDigitChars_padded (width : Nat) (value : Int) :
    Nat.ofDigitChars 10 (padded width value).toList 0 = value.natAbs := by
  rw [toList_padded, Nat.ofDigitChars_append, Nat.ofDigitChars_replicate_zero, Nat.mul_zero,
    Nat.ofDigitChars_toDigits (by decide) (by decide)]

end Instant

namespace TimeReading

open Instant (padded)

variable {width : Nat} {value : Int}

/-- What is written with so many digits is read with so many. -/
theorem number?_padded (pos : 0 < width) (nonneg : 0 ≤ value) (below : value.natAbs < 10 ^ width)
    (rest : List Char) :
    number? width ((padded width value).toList ++ rest) = some (value, rest) := by
  have length := Instant.length_padded pos below
  unfold number?
  rw [List.take_left' length, List.drop_left' length,
    if_pos ⟨length, Instant.isDigit_padded width value⟩, Instant.ofDigitChars_padded,
    Int.natAbs_of_nonneg nonneg]

/-- At least four digits are read up to the first character that is none. -/
theorem unsignedYear?_padded (below : value.natAbs < 10000) {mark : Char}
    (isMark : mark.isDigit = false) (rest : List Char) :
    unsignedYear? ((padded 4 value).toList ++ mark :: rest) =
      some ((value.natAbs : Int), mark :: rest) := by
  have digits := List.all_eq_true.1 (Instant.isDigit_padded 4 value)
  unfold unsignedYear?
  rw [List.takeWhile_append_of_pos digits, List.dropWhile_append_of_pos digits,
    List.takeWhile_cons_of_neg (by rw [isMark]; decide),
    List.dropWhile_cons_of_neg (by rw [isMark]; decide), List.append_nil,
    Instant.length_padded (by decide) below, if_pos (le_refl 4), Instant.ofDigitChars_padded]

/-- Without a sign, a year is read from its first digit on. -/
theorem year?_of_isDigit {first : Char} (isDigit : first.isDigit = true) (rest : List Char) :
    year? (first :: rest) = unsignedYear? (first :: rest) := by
  unfold year?
  split
  next same =>
    obtain ⟨rfl, _⟩ := List.cons.inj same
    cases isDigit
  next same =>
    obtain ⟨rfl, _⟩ := List.cons.inj same
    cases isDigit
  next => rfl

theorem year?_yearText {year : Int} {text : String}
    (written : Instant.yearText? year = some text) {mark : Char}
    (isMark : mark.isDigit = false) (rest : List Char) :
    year? (text.toList ++ mark :: rest) = some (year, mark :: rest) := by
  unfold Instant.yearText? at written
  by_cases below : year.natAbs < 10000
  · rw [if_pos below] at written
    obtain rfl := Option.some.inj written
    have read := unsignedYear?_padded below isMark rest
    by_cases negative : year < 0
    · have signed : (if year < 0 then "-" else "") = String.singleton '-' := if_pos negative
      rw [signed, String.toList_append, String.toList_singleton, List.singleton_append,
        List.cons_append, year?, read, Option.map_some, Option.some.injEq, Prod.mk.injEq]
      exact ⟨by omega, rfl⟩
    · have unsigned : (if year < 0 then "-" else "") = "" := if_neg negative
      rw [unsigned, String.empty_append]
      cases digits : (padded 4 year).toList with
      | nil =>
          have length := Instant.length_padded (show 0 < 4 by decide) below
          rw [digits] at length
          cases length
      | cons first others =>
          have isDigit : first.isDigit = true := by
            have all := Instant.isDigit_padded 4 year
            rw [digits, List.all_cons, Bool.and_eq_true] at all
            exact all.1
          rw [digits] at read
          rw [List.cons_append, year?_of_isDigit isDigit, ← List.cons_append, read,
            Int.natAbs_of_nonneg (not_lt.1 negative)]
  · rw [if_neg below] at written
    cases written

theorem offset?_digits {hours minutes : Int} (hoursNonneg : 0 ≤ hours)
    (hoursBelow : hours.natAbs < 10 ^ 2) (minutesNonneg : 0 ≤ minutes)
    (minutesBelow : minutes < 60) (sign : Char) (rest : List Char) :
    offset? (sign :: ((padded 2 hours).toList ++ ((padded 2 minutes).toList ++ rest))) =
      if sign = '+' then some (hours * 3600 + minutes * 60, rest)
      else if sign = '-' then some (-(hours * 3600 + minutes * 60), rest)
      else none := by
  have inHour : ¬ 60 ≤ minutes := by omega
  rw [offset?, number?_padded (by decide) hoursNonneg hoursBelow]
  dsimp only [Option.bind_eq_bind, Option.bind_some]
  rw [number?_padded (by decide) minutesNonneg (by omega)]
  dsimp only [Option.bind_some]
  rw [if_neg inHour]

/-- An offset of whole minutes is read as it was. -/
theorem offset?_text {offset : Int} (below : offset.natAbs < 360000)
    (wholeMinutes : offset % 60 = 0) (rest : List Char) :
    offset? ((Instant.offsetHourText true offset).toList ++
        ((padded 2 (offset.natAbs / 60 % 60)).toList ++ rest)) = some (offset, rest) := by
  have signed : Instant.offsetHourText true offset =
      String.singleton (if offset < 0 then '-' else '+') ++ padded 2 (offset.natAbs / 3600) := by
    unfold Instant.offsetHourText
    split
    · rfl
    · rfl
  have read := offset?_digits
    (show 0 ≤ (offset.natAbs / 3600 : Int) by omega) (by omega)
    (show 0 ≤ (offset.natAbs / 60 % 60 : Int) by omega) (by omega)
  rw [signed, String.toList_append, String.toList_singleton, List.singleton_append,
    List.cons_append, read]
  by_cases negative : offset < 0
  · rw [if_pos negative, if_neg (by decide), if_pos rfl, Option.some.injEq, Prod.mk.injEq]
    exact ⟨by omega, rfl⟩
  · rw [if_neg negative, if_pos rfl, Option.some.injEq, Prod.mk.injEq]
    exact ⟨by omega, rfl⟩

/-! ## Steps along a pattern -/

variable {letter first : Char} {pattern text rest : List Char} {reading next : TimeReading}

theorem along?_part (read : part? letter text reading = some (next, rest)) :
    along? ('%' :: letter :: pattern) text reading = along? pattern rest next := by
  rw [along?, read, Option.bind_some]

theorem along?_same (notPart : first ≠ '%') :
    along? (first :: pattern) (first :: rest) reading = along? pattern rest reading := by
  rw [along?, if_pos rfl]
  exact fun _ _ isPart _ => notPart isPart

theorem along?_year {year : Int} (read : year? text = some (year, rest)) :
    along? ('%' :: 'Y' :: pattern) text reading =
      along? pattern rest { reading with year := year } := by
  apply along?_part
  rw [part?, if_pos rfl, read, Option.map_some]

theorem along?_offset {offset : Int} (read : offset? text = some (offset, rest)) :
    along? ('%' :: 'z' :: pattern) text reading =
      along? pattern rest { reading with offset := offset } := by
  apply along?_part
  rw [part?, if_neg (by decide), if_pos rfl, read, Option.map_some]

theorem along?_number {set : Int → TimeReading → TimeReading}
    (isNumber : numbered? letter = some (width, set)) (pos : 0 < width) (nonneg : 0 ≤ value)
    (below : value.natAbs < 10 ^ width) :
    along? ('%' :: letter :: pattern) ((padded width value).toList ++ rest) reading =
      along? pattern rest (set value reading) := by
  apply along?_part
  have notYear : letter ≠ 'Y' := by
    rintro rfl
    cases isNumber
  have notOffset : letter ≠ 'z' := by
    rintro rfl
    cases isNumber
  rw [part?, if_neg notYear, if_neg notOffset, isNumber, Option.bind_some,
    number?_padded pos nonneg below, Option.map_some]

end TimeReading

/-! ## Expiries -/

/-- The pattern that the text of an expiry is read by. -/
def expiryPattern : String := "%Y-%m-%dT%H:%M:%S.%f%z"

namespace Instant

open TimeReading

variable {instant : Instant}

/-- The instant without what is finer than a microsecond. -/
def toMicroseconds (instant : Instant) : Instant :=
  { instant with nanos := instant.nanos / 1000 * 1000 }

theorem exists_yearText (shown : instant.Representable) :
    ∃ text, yearText? instant.localDate.year = some text := by
  have small : instant.localDate.year.natAbs < 10000 := by
    have lower := shown.year_ge
    have upper := shown.year_le
    omega
  exact ⟨_, if_pos small⟩

theorem formatted?_expiryFormat {year : String}
    (written : yearText? instant.localDate.year = some year) :
    instant.formatted? expiryFormat = some (
      year ++ "-" ++ padded 2 instant.localDate.month ++ "-" ++
      padded 2 instant.localDate.day ++ "T" ++ padded 2 (instant.secondOfDay / 3600) ++ ":" ++
      padded 2 (instant.secondOfDay / 60 % 60) ++ ":" ++ padded 2 (instant.secondOfDay % 60) ++
      "." ++ padded 6 (instant.subsecond / 1000) ++ offsetHourText true instant.offset ++
      padded 2 (instant.offset.natAbs / 60 % 60)) := by
  unfold formatted? expiryFormat
  simp [itemText?, partText?, written, String.join]

theorem toList_expiryText {year : String}
    (written : yearText? instant.localDate.year = some year) :
    instant.expiryText.toList =
      year.toList ++ '-' :: ((padded 2 instant.localDate.month).toList ++ '-' ::
      ((padded 2 instant.localDate.day).toList ++ 'T' ::
      ((padded 2 (instant.secondOfDay / 3600)).toList ++ ':' ::
      ((padded 2 (instant.secondOfDay / 60 % 60)).toList ++ ':' ::
      ((padded 2 (instant.secondOfDay % 60)).toList ++ '.' ::
      ((padded 6 (instant.subsecond / 1000)).toList ++
      ((offsetHourText true instant.offset).toList ++
      ((padded 2 (instant.offset.natAbs / 60 % 60)).toList ++ [])))))))) := by
  rw [expiryText, formatted?_expiryFormat written, Option.getD_some]
  simp [String.toList_append]

theorem along?_expiryText (shown : instant.Representable)
    (wholeMinutes : instant.offset % 60 = 0) :
    along? expiryPattern.toList instant.expiryText.toList start =
      some
        { year := instant.localDate.year
          month := instant.localDate.month
          day := instant.localDate.day
          hour := instant.secondOfDay / 3600
          minute := instant.secondOfDay / 60 % 60
          second := instant.secondOfDay % 60
          microsecond := instant.subsecond / 1000
          offset := instant.offset } := by
  obtain ⟨year, written⟩ := exists_yearText shown
  obtain ⟨monthPos, monthLe, dayPos, dayLe⟩ :=
    instant.valid_localDate
  have dayLe31 := CalendarDate.daysInMonth_le instant.localDate.year instant.localDate.month
  obtain ⟨secondNonneg, secondBelow⟩ := instant.secondOfDay_mem
  obtain ⟨fractionNonneg, fractionBelow⟩ := instant.subsecond_mem
  unfold CalendarDate.secondsPerDay at secondBelow
  unfold nanosPerSecond at fractionBelow
  have pattern : expiryPattern.toList = ['%', 'Y', '-', '%', 'm', '-', '%', 'd', 'T', '%', 'H',
      ':', '%', 'M', ':', '%', 'S', '.', '%', 'f', '%', 'z'] := by decide
  have yearRead := year?_yearText written (show '-'.isDigit = false by decide)
  have offsetBelow : instant.offset.natAbs < 360000 := by
    have lower := shown.offset_gt
    have upper := shown.offset_lt
    omega
  have offsetRead := offset?_text offsetBelow wholeMinutes []
  rw [pattern, toList_expiryText written, along?_year (yearRead _), along?_same (by decide),
    along?_number rfl (by decide) (by omega) (by omega), along?_same (by decide),
    along?_number rfl (by decide) (by omega) (by omega), along?_same (by decide),
    along?_number rfl (by decide) (by omega) (by omega), along?_same (by decide),
    along?_number rfl (by decide) (by omega) (by omega), along?_same (by decide),
    along?_number rfl (by decide) (by omega) (by omega), along?_same (by decide),
    along?_number rfl (by decide) (by omega) (by omega), along?_offset offsetRead]
  rfl

theorem ofLocal_microseconds (instant : Instant) :
    ofLocal instant.localDate instant.secondOfDay (instant.subsecond / 1000 * 1000)
      instant.offset = instant.toMicroseconds := by
  have whole := congrArg nanos instant.ofLocal_localDate
  unfold ofLocal subsecond nanosPerSecond at whole
  dsimp only at whole
  unfold ofLocal toMicroseconds subsecond nanosPerSecond
  rw [Instant.mk.injEq]
  exact ⟨by omega, rfl⟩

theorem read?_expiryText (shown : instant.Representable)
    (wholeMinutes : instant.offset % 60 = 0) :
    read? expiryPattern instant.expiryText = some instant.toMicroseconds := by
  obtain ⟨nonneg, below⟩ := instant.secondOfDay_mem
  unfold CalendarDate.secondsPerDay at below
  have clock : instant.secondOfDay / 3600 * 3600 + instant.secondOfDay / 60 % 60 * 60 +
      instant.secondOfDay % 60 = instant.secondOfDay := by omega
  have hourBelow : instant.secondOfDay / 3600 < 24 := by omega
  have minuteBelow : instant.secondOfDay / 60 % 60 < 60 := by omega
  have secondBelow : instant.secondOfDay % 60 < 60 := by omega
  rw [read?, along?_expiryText shown wholeMinutes, Option.bind_some, instant?,
    if_pos ⟨instant.valid_localDate, hourBelow, minuteBelow, secondBelow⟩]
  dsimp only
  rw [clock, ofLocal_microseconds]

/-- Whether an expiry is reported by its format, and the text is read by its pattern as
the instant, to the microsecond. -/
structure ReadsBack (instant : Instant) : Prop where
  formatted : instant.formatted? expiryFormat = some instant.expiryText
  read : read? expiryPattern instant.expiryText = some instant.toMicroseconds

theorem readsBack (shown : instant.Representable) (wholeMinutes : instant.offset % 60 = 0) :
    instant.ReadsBack where
  formatted := by
    obtain ⟨year, written⟩ := exists_yearText shown
    rw [expiryText, formatted?_expiryFormat written, Option.getD_some]
  read := read?_expiryText shown wholeMinutes

/-- The text of an expiry with an offset of whole minutes is written by the format and
gives the offset and the instant to the microsecond, so instants with one text differ by
less than a microsecond. Stored expiries are such ones. -/
theorem expiry_texts_read_back :
    (∀ instant : Instant, instant.Representable → instant.offset % 60 = 0 →
      instant.ReadsBack) ∧
    (∀ first second : Instant, first.Representable → first.offset % 60 = 0 →
      second.Representable → second.offset % 60 = 0 → first.expiryText = second.expiryText →
      first.offset = second.offset ∧ |first.nanos - second.nanos| < 1000) ∧
    ∀ nanos instant, Timestamp.decode nanos = .ok instant →
      instant.offset = 0 ∧ instant.ReadsBack := by
  refine ⟨fun instant => readsBack, ?_, fun nanos instant decoded => ?_⟩
  · intro first second firstShown firstWhole secondShown secondWhole sameText
    have same : some first.toMicroseconds = some second.toMicroseconds := by
      rw [← read?_expiryText firstShown firstWhole, sameText,
        read?_expiryText secondShown secondWhole]
    have sameInstant := Option.some.inj same
    unfold toMicroseconds at sameInstant
    rw [Instant.mk.injEq] at sameInstant
    rw [abs_lt]
    exact ⟨sameInstant.2, by omega, by omega⟩
  · obtain ⟨representable, rfl⟩ := Timestamp.decode_eq_ok decoded
    exact ⟨rfl, readsBack (Timestamp.representable_ofNanosUtc representable) rfl⟩

/-- Just before midnight on a leap day of a negative year, half an hour west of UTC. -/
theorem leap_day_expiry_reads_back :
    (Instant.mk (-62288263800000000001) (-1800)).expiryText = "-0004-02-29T23:59:59.999999-0030" ∧
      (Instant.mk (-62288263800000000001) (-1800)).ReadsBack := by
  refine ⟨?_, ?_⟩
  · decide +kernel
  · exact expiry_texts_read_back.1 _ (by decide +kernel) (by decide +kernel)

end Instant

end RowAccess
