import ArtifactLens.Number.Rounding
import ArtifactLens.Text.Digit

/-!
# The calendar

Days are counted from the first of January 1970, moments in nanoseconds since its beginning. The
calendar is that of Gregory, carried on in both directions; `civilOf` takes a count of days apart
and `daysOf` puts it together. A zone is so many seconds ahead of universal time.
-/

namespace ArtifactLens.Shell

namespace Calendar

/-- Days since the first of January 1970. Months beyond the year and days beyond the month count
on. -/
def daysOf (year month day : Int) : Int :=
  let year := year + (month - 1) / 12
  let month := (month - 1) % 12 + 1
  -- The year is taken to begin in March, so that a leap day is its last.
  let year := if month ≤ 2 then year - 1 else year
  let era := year / 400
  let ofEra := year % 400
  let sinceMarch := (month + 9) % 12
  let ofYear := (153 * sinceMarch + 2) / 5 + day - 1
  era * 146097 + ofEra * 365 + ofEra / 4 - ofEra / 100 + ofYear - 719468

/-- The year, the month and the day of a count of days. -/
def civilOf (days : Int) : Int × Int × Int :=
  let shifted := days + 719468
  let era := shifted / 146097
  let ofEra := shifted % 146097
  let year := (ofEra - ofEra / 1460 + ofEra / 36524 - ofEra / 146096) / 365
  let ofYear := ofEra - (365 * year + year / 4 - year / 100)
  let sinceMarch := (5 * ofYear + 2) / 153
  let month := if sinceMarch < 10 then sinceMarch + 3 else sinceMarch - 9
  (era * 400 + year + (if month ≤ 2 then 1 else 0), month,
    ofYear - (153 * sinceMarch + 2) / 5 + 1)

/-- The day of the week, Sunday being 0. -/
def weekdayOf (days : Int) : Nat := ((days + 4) % 7).toNat

/-- A zone: its seconds ahead of universal time, and its name. -/
structure Zone where
  offset : Int := 0
  name : String := "UTC"

/-- The zone of universal time. -/
def universal : Zone := {}

/-- A moment taken apart. -/
structure Civil where
  year : Int
  month : Int
  day : Int
  hour : Int
  minute : Int
  second : Int
  nanosecond : Int
  weekday : Nat
  /-- Days since the first of January. -/
  dayOfYear : Int
  zone : Zone

/-- A moment as clocks and calendars in a zone show it. -/
def Civil.ofMoment (zone : Zone) (moment : Int) : Civil :=
  let seconds := moment / 10 ^ 9 + zone.offset
  let days := seconds / 86400
  let rest := seconds % 86400
  let (year, month, day) := civilOf days
  { year, month, day, hour := rest / 3600, minute := rest / 60 % 60, second := rest % 60
    nanosecond := moment % 10 ^ 9, weekday := weekdayOf days
    dayOfYear := days - daysOf year 1 1, zone }

/-- The moment that clocks and calendars show, in seconds since the beginning of 1970. -/
def secondsOf (zone : Zone) (year month day hour minute second : Int) : Int :=
  daysOf year month day * 86400 + hour * 3600 + minute * 60 + second - zone.offset

/-- The year and the week of it by which weeks are counted that begin on Monday and belong to the
year of their Thursday. -/
def isoWeek (civil : Civil) : Int × Int :=
  let days := daysOf civil.year 1 1 + civil.dayOfYear
  let thursday := days - ((civil.weekday : Int) + 6) % 7 + 3
  let (year, _, _) := civilOf thursday
  (year, (thursday - daysOf year 1 1) / 7 + 1)

/-- The names of the months. -/
def monthNames : List String :=
  ["January", "February", "March", "April", "May", "June", "July", "August", "September", "October",
    "November", "December"]

/-- The names of the days of the week. -/
def dayNames : List String :=
  ["Sunday", "Monday", "Tuesday", "Wednesday", "Thursday", "Friday", "Saturday"]

/-! ### Zones -/

/-- Reads hours, minutes and seconds with colons between them, as seconds. -/
def clockSeconds? (text : List Char) : Option (Int × List Char) :=
  let number (text : List Char) : Option (Int × List Char) :=
    let digits := text.takeWhile Char.isDigit
    if digits.isEmpty then none else some (Digit.numeral digits, text.drop digits.length)
  match number text with
  | none => none
  | some (hours, ':' :: rest) =>
    match number rest with
    | none => none
    | some (minutes, ':' :: rest) =>
      (number rest).map fun (seconds, rest) => (3600 * hours + 60 * minutes + seconds, rest)
    | some (minutes, rest) => some (3600 * hours + 60 * minutes, rest)
  | some (hours, rest) => some (3600 * hours, rest)

/-- The zone that a text such as `EST5` names, in which times behind universal time are positive. A
text that cannot be read means universal time. -/
def Zone.ofText (text : String) : Zone :=
  let chars := text.toList
  let chars := if chars.head? = some ':' then chars.drop 1 else chars
  let (name, rest) := match chars with
    | '<' :: rest => (rest.takeWhile (· != '>'), (rest.dropWhile (· != '>')).drop 1)
    | _ => (chars.takeWhile Char.isAlpha, chars.dropWhile Char.isAlpha)
  if name.length < 3 then universal
  else
    let name := String.ofList name
    let (sign, rest) : Int × List Char := match rest with
      | '+' :: rest => (-1, rest)
      | '-' :: rest => (1, rest)
      | rest => (-1, rest)
    match clockSeconds? rest with
    | some (seconds, _) => { offset := sign * seconds, name }
    | none => { offset := 0, name }

end Calendar

end ArtifactLens.Shell
