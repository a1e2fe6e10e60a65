import CacheGate.Text.Decimal
import CacheGate.Text.Trim
import CacheGate.Time.Date
import CacheGate.Time.Instant

/-!
# HTTP dates

The fixed-length date format of HTTP, such as `Sun, 06 Nov 1994 08:49:37 GMT`.
`HttpDate.format` writes an instant to the second, with a minus sign in front
of a negative year. `HttpDate.parse?` reads the format back: names are
case-sensitive, numbers have their full width, the year may carry a sign, and
the weekday has to be a known name but need not fit the date.
-/

namespace CacheGate.Time.HttpDate

/-- The names of the days of the week, from Monday. -/
def weekdays : List String := ["Mon", "Tue", "Wed", "Thu", "Fri", "Sat", "Sun"]

/-- The names of the months, from January. -/
def months : List String :=
  ["Jan", "Feb", "Mar", "Apr", "May", "Jun", "Jul", "Aug", "Sep", "Oct", "Nov", "Dec"]

/-! ## Writing -/

/-- The characters of the name at an index. -/
def nameAt (names : List String) (index : Nat) : List Char := (names.getD index "").toList

/-- A year of four digits, signed when negative. -/
def yearText (year : Int) : List Char :=
  if year < 0 then '-' :: Text.padded 4 year.natAbs else Text.padded 4 year.natAbs

/-- A time of day as hours, minutes and seconds. -/
def clockText (secondOfDay : Nat) : List Char :=
  Text.padded 2 (secondOfDay / 3600) ++ ':' :: Text.padded 2 (secondOfDay / 60 % 60) ++
    ':' :: Text.padded 2 (secondOfDay % 60)

/-- The characters of the date of an instant. -/
def formatChars (instant : Instant) : List Char :=
  let days := instant.seconds / 86400
  let date := Date.ofDays days
  nameAt weekdays (Date.weekday days) ++ ',' :: ' ' :: Text.padded 2 date.day ++
    ' ' :: nameAt months (date.month - 1) ++ ' ' :: yearText date.year ++
    ' ' :: clockText (instant.seconds % 86400).toNat ++ [' ', 'G', 'M', 'T']

/-- The date of an instant, to the second. -/
def format (instant : Instant) : String := String.ofList (formatChars instant)

/-! ## Reading -/

/-- Reads one of the given names and gives its index. -/
def name? (names : List String) (cs : List Char) : Option (Nat × List Char) :=
  (names.findIdx? fun name => name.toList.isPrefixOf cs).map fun index => (index, cs.drop 3)

/-- Reads a number of exactly `width` digits. -/
def number? (width : Nat) (cs : List Char) : Option (Nat × List Char) :=
  if (cs.take width).length = width then
    (Text.natural? (cs.take width)).map fun n => (n, cs.drop width)
  else none

/-- Reads the given characters. -/
def literal? (expected cs : List Char) : Option (List Char) :=
  if expected.isPrefixOf cs then some (cs.drop expected.length) else none

/-- Reads a year of four digits with an optional sign. -/
def year? : List Char → Option (Int × List Char)
  | '-' :: rest => (number? 4 rest).map fun (n, rest) => (-(n : Int), rest)
  | '+' :: rest => (number? 4 rest).map fun (n, rest) => ((n : Int), rest)
  | rest => (number? 4 rest).map fun (n, rest) => ((n : Int), rest)

/-- Reads a time of day and gives its seconds. -/
def clock? (cs : List Char) : Option (Nat × List Char) := do
  let (hour, cs) ← number? 2 cs
  let cs ← literal? [':'] cs
  let (minute, cs) ← number? 2 cs
  let cs ← literal? [':'] cs
  let (second, cs) ← number? 2 cs
  if hour ≤ 23 && minute ≤ 59 && second ≤ 59 then
    some (hour * 3600 + minute * 60 + second, cs)
  else none

/-- Reads a date and a time of day that are the whole text. -/
def parseChars? (cs : List Char) : Option Instant := do
  let (_, cs) ← name? weekdays cs
  let cs ← literal? [',', ' '] cs
  let (day, cs) ← number? 2 cs
  let cs ← literal? [' '] cs
  let (monthIndex, cs) ← name? months cs
  let cs ← literal? [' '] cs
  let (year, cs) ← year? cs
  let cs ← literal? [' '] cs
  let (secondOfDay, cs) ← clock? cs
  let cs ← literal? [' ', 'G', 'M', 'T'] cs
  let date : Date := ⟨year, monthIndex + 1, day⟩
  if cs.isEmpty && date.isValid then
    Instant.ofSeconds? (date.toDays * 86400 + secondOfDay) 0
  else none

/-- Reads a date; blank characters around it are ignored. -/
def parse? (raw : String) : Option Instant := parseChars? (Text.trim raw.toList)

end CacheGate.Time.HttpDate
