import RowAccess.Time.Instant

/-!
Contract: the text in which an expiry is reported.

A format lists texts and parts of a local time. Numbers have zeros in front, years have
four digits and a sign if they are negative, and what does not fit is cut off: digits of
the fraction, seconds of the offset. A year of more digits has no text, and neither has
a format with it; an expiry without a text by its format is reported in seconds.

Owns:
- the parts of a local time and their texts.
- the format of expiries, and the text of one.
-/

namespace RowAccess

/-- What a format can show of a local time. -/
inductive TimePart where
  | year
  | month
  | day
  | hour
  | minute
  | second
  | fraction (digits : Nat)
  | offsetHour (signed : Bool)
  | offsetMinute
deriving DecidableEq, Repr

/-- A text that stands for itself, or a part of a time. -/
inductive FormatItem where
  | text (text : String)
  | part (part : TimePart)
deriving DecidableEq, Repr

/-- Local date and time to the microsecond, and the offset with its sign. -/
def expiryFormat : List FormatItem :=
  [.part .year, .text "-", .part .month, .text "-", .part .day, .text "T",
   .part .hour, .text ":", .part .minute, .text ":", .part .second, .text ".",
   .part (.fraction 6), .part (.offsetHour true), .part .offsetMinute]

namespace Instant

/-- A number's digits with zeros in front up to a width. -/
def padded (width : Nat) (value : Int) : String :=
  let digits := value.natAbs.repr
  String.ofList (List.replicate (width - digits.length) '0') ++ digits

def yearText? (year : Int) : Option String :=
  if year.natAbs < 10000 then some ((if year < 0 then "-" else "") ++ padded 4 year) else none

/-- Whole hours of an offset. Every negative offset has the minus sign. -/
def offsetHourText (signed : Bool) (offset : Int) : String :=
  (if offset < 0 then "-" else if signed then "+" else "") ++ padded 2 (offset.natAbs / 3600)

def partText? (instant : Instant) : TimePart → Option String
  | .year => yearText? instant.localDate.year
  | .month => some (padded 2 instant.localDate.month)
  | .day => some (padded 2 instant.localDate.day)
  | .hour => some (padded 2 (instant.secondOfDay / 3600))
  | .minute => some (padded 2 (instant.secondOfDay / 60 % 60))
  | .second => some (padded 2 (instant.secondOfDay % 60))
  | .fraction digits => some (padded digits (instant.subsecond / Int.pow 10 (9 - digits)))
  | .offsetHour signed => some (offsetHourText signed instant.offset)
  | .offsetMinute => some (padded 2 (instant.offset.natAbs / 60 % 60))

def itemText? (instant : Instant) : FormatItem → Option String
  | .text text => some text
  | .part part => instant.partText? part

/-- The text of an instant by a format, if all parts have one. -/
def formatted? (instant : Instant) (format : List FormatItem) : Option String :=
  (format.mapM instant.itemText?).map String.join

def expiryText (instant : Instant) : String :=
  (instant.formatted? expiryFormat).getD (toString instant.seconds)

end Instant

end RowAccess
