import ArtifactLens.Shell.Calendar.Basic

/-!
# Reading moments

A moment can be told in words: a date, a time of day, a day of the week, a zone, and spans that lead
away from there, in any order. `read?` gives the moment that words tell, counted from now where they
leave something open; `stamp?` reads the digits of a stamp.
-/

namespace ArtifactLens.Shell

namespace Calendar

/-- A span of time by its units. -/
structure Shift where
  years : Int := 0
  months : Int := 0
  days : Int := 0
  seconds : Int := 0
  nanoseconds : Int := 0

/-- The units of spans by name. -/
def unitOf? (name : String) : Option Shift :=
  let name := if name.length > 1 ∧ name.endsWith "s" then (name.take (name.length - 1)).toString
    else name
  match name with
  | "year" => some { years := 1 }
  | "month" => some { months := 1 }
  | "fortnight" => some { days := 14 }
  | "week" => some { days := 7 }
  | "day" => some { days := 1 }
  | "hour" => some { seconds := 3600 }
  | "minute" | "min" => some { seconds := 60 }
  | "second" | "sec" => some { seconds := 1 }
  | _ => none

/-- A span so many times over. -/
def Shift.scale (shift : Shift) (count : Int) : Shift :=
  ⟨shift.years * count, shift.months * count, shift.days * count, shift.seconds * count,
    shift.nanoseconds * count⟩

/-- A span after another. -/
def Shift.add (a b : Shift) : Shift :=
  ⟨a.years + b.years, a.months + b.months, a.days + b.days, a.seconds + b.seconds,
    a.nanoseconds + b.nanoseconds⟩

/-- What was told of a moment so far. -/
structure Told where
  /-- The year with the number of its digits, the month and the day. -/
  date : Option (Option (Int × Nat) × Int × Int) := none
  /-- The seconds of the day and nanoseconds. -/
  time : Option (Int × Int) := none
  zone : Option Int := none
  /-- A day of the week, and which one of them. -/
  day : Option (Int × Nat) := none
  shift : Shift := {}
  isShifted : Bool := false
  /-- The newest span, which a word can turn around. -/
  newest : Shift := {}
  /-- A time was told last, so that a sign begins a zone. -/
  afterTime : Bool := false

/-- The full name that a word stands for among names, which may be cut to three letters. -/
def nameIndex? (names : List String) (word : String) : Option Nat :=
  names.findIdx? fun name =>
    let name := name.map Char.toLower
    word == name || word == (name.take 3).toString || (name == "september" && word == "sept") ||
      (name == "tuesday" && word == "tues") || (name == "wednesday" && word == "wednes") ||
      (name == "thursday" && (word == "thur" || word == "thurs"))

/-- The counts that words tell. -/
def ordinalOf? : String → Option Int
  | "last" => some (-1)
  | "this" => some 0
  | "next" | "first" => some 1
  | "third" => some 3
  | "fourth" => some 4
  | "fifth" => some 5
  | "sixth" => some 6
  | "seventh" => some 7
  | "eighth" => some 8
  | "ninth" => some 9
  | "tenth" => some 10
  | "eleventh" => some 11
  | "twelfth" => some 12
  | _ => none

/-- How far a named zone is ahead, in seconds. -/
def zoneOf? : String → Option Int
  | "utc" | "gmt" | "ut" | "z" | "wet" => some 0
  | "cet" | "met" | "bst" => some 3600
  | "eet" | "cest" => some 7200
  | "msk" => some 10800
  | "jst" => some 32400
  | "est" => some (-18000)
  | "edt" => some (-14400)
  | "cst" => some (-21600)
  | "cdt" => some (-18000)
  | "mst" => some (-25200)
  | "mdt" => some (-21600)
  | "pst" => some (-28800)
  | "pdt" => some (-25200)
  | _ => none

/-- A run of digits as a number, with how many they are, and what follows. -/
def digitsAt (text : List Char) : Int × Nat × List Char :=
  let digits := text.takeWhile Char.isDigit
  (Digit.numeral digits, digits.length, text.drop digits.length)

/-- The nanoseconds of the digits of a fraction after its point. -/
def fractionAt (text : List Char) : Int × List Char :=
  match text with
  | point :: rest =>
    let digits := rest.takeWhile Char.isDigit
    if (point = '.' ∨ point = ',') ∧ !digits.isEmpty then
      let nine := (digits ++ List.replicate 9 '0').take 9
      (Digit.numeral nine, rest.drop digits.length)
    else (0, text)
  | [] => (0, [])

/-- The text after its blanks. -/
def afterBlanks (text : List Char) : List Char :=
  text.dropWhile fun c => c == ' ' || c == '\t' || c == '\n'

/-- The word at the start of a text, in small letters, and what follows. -/
def wordAt (text : List Char) : String × List Char :=
  let letters := text.takeWhile fun c => c.isAlpha || c == '.'
  let word := String.ofList ((letters.map Char.toLower).filter (· != '.'))
  (word, text.drop letters.length)

/-- An hour with the half of the day that a word tells. -/
def hourOf? (hour : Int) (word : String) : Option Int :=
  match word with
  | "am" => if 1 ≤ hour ∧ hour ≤ 12 then some (hour % 12) else none
  | "pm" => if 1 ≤ hour ∧ hour ≤ 12 then some (hour % 12 + 12) else none
  | _ => if 0 ≤ hour ∧ hour ≤ 23 then some hour else none

/-- Notes a date, of which there is one at most. -/
def Told.withDate (told : Told) (year : Option (Int × Nat)) (month day : Int) : Option Told :=
  if told.date.isSome then none
  else some { told with date := some (year, month, day), afterTime := false }

/-- Notes a time of day, of which there is one at most. -/
def Told.withTime (told : Told) (hour minute second nanosecond : Int) (word : String) :
    Option Told :=
  if told.time.isSome ∨ minute > 59 ∨ second > 60 then none
  else
    (hourOf? hour word).map fun hour =>
      { told with time := some (hour * 3600 + minute * 60 + second, nanosecond), afterTime := true }

/-- Notes a span. -/
def Told.withShift (told : Told) (shift : Shift) : Told :=
  { told with
    shift := told.shift.add shift, newest := shift, isShifted := true, afterTime := false }

/-- Notes how far a zone is ahead, of which there is one at most. -/
def Told.withZone (told : Told) (seconds : Int) : Option Told :=
  if told.zone.isSome then none
  else some { told with zone := some seconds, afterTime := false }

/-- Notes a number that stands alone. -/
def Told.withNumber (told : Told) (value : Int) (count : Nat) : Option Told :=
  match told.date with
  | some (none, month, day) =>
    if !told.isShifted ∧ (told.time.isSome ∨ count > 2) then
      some { told with date := some (some (value, count), month, day), afterTime := false }
    else clock
  | _ =>
    if count > 4 then
      told.withDate (some (value / 10000, count - 4)) (value / 100 % 100) (value % 100)
    else clock
where
  /-- The number as a time of day. -/
  clock : Option Told :=
    if count > 4 then none
    else if count ≤ 2 then told.withTime value 0 0 0 ""
    else told.withTime (value / 100) (value % 100) 0 0 ""

/-- Takes up what begins with digits. -/
def Told.takeNumber (told : Told) (text : List Char) : Option (Told × List Char) :=
  let (first, count, rest) := digitsAt text
  let next := (rest.drop 1).head?.any Char.isDigit
  match rest with
  | ':' :: more =>
    let (minute, _, rest) := digitsAt more
    let (second, nanosecond, rest) : Int × Int × List Char := match rest with
      | ':' :: more =>
        let (second, _, rest) := digitsAt more
        let (nanosecond, rest) := fractionAt rest
        (second, nanosecond, rest)
      | rest => (0, 0, rest)
    let (word, after) := wordAt (afterBlanks rest)
    if word = "am" ∨ word = "pm" then
      (told.withTime first minute second nanosecond word).map fun told => (told, after)
    else (told.withTime first minute second nanosecond "").map fun told => (told, rest)
  | '/' :: more =>
    let (second, _, rest) := digitsAt more
    match rest with
    | '/' :: more =>
      let (third, thirdCount, rest) := digitsAt more
      if count ≥ 4 then
        (told.withDate (some (first, count)) second third).map fun told => (told, rest)
      else (told.withDate (some (third, thirdCount)) first second).map fun told => (told, rest)
    | rest => (told.withDate none first second).map fun told => (told, rest)
  | '-' :: more =>
    let (word, afterWord) := wordAt more
    match nameIndex? monthNames word with
    | some month =>
      match afterWord with
      | '-' :: rest =>
        let (year, yearCount, rest) := digitsAt rest
        (told.withDate (some (year, yearCount)) (month + 1) first).map fun told => (told, rest)
      | rest => (told.withDate none (month + 1) first).map fun told => (told, rest)
    | none =>
      let (second, _, rest) := digitsAt more
      match rest with
      | '-' :: more =>
        if !next ∨ !(more.head?.any Char.isDigit) then none
        else
          let (third, _, rest) := digitsAt more
          let told? := told.withDate (some (first, count)) second third
          -- A letter may stand between a date and its time.
          let rest := match rest with
            | letter :: digit :: _ =>
              if (letter = 'T' ∨ letter = 't') ∧ digit.isDigit then rest.drop 1 else rest
            | _ => rest
          told?.map fun told => (told, rest)
      | _ => none
  | rest =>
    let (nanosecond, afterFraction) := fractionAt rest
    let (word, after) := wordAt (afterBlanks afterFraction)
    if word = "am" ∨ word = "pm" then
      (told.withTime first 0 0 0 word).map fun told => (told, after)
    else
      match unitOf? word, nameIndex? monthNames word with
      | some unit, _ =>
        let shift := unit.scale first
        let shift := if unit.seconds = 1 then { shift with nanoseconds := nanosecond } else shift
        some (told.withShift shift, after)
      | none, some month =>
        match digitsAt (afterBlanks (after.dropWhile (· == ','))) with
        | (year, count + 1, rest) =>
          if rest.head? = some ':' ∨ count + 1 < 4 then
            (told.withDate none (month + 1) first).map fun told => (told, after)
          else
            (told.withDate (some (year, count + 1)) (month + 1) first).map fun told => (told, rest)
        | (_, 0, _) => (told.withDate none (month + 1) first).map fun told => (told, after)
      | none, none => (told.withNumber first count).map fun told => (told, rest)

/-- Takes up what begins with a sign. -/
def Told.takeSigned (told : Told) (sign : Int) (text : List Char) : Option (Told × List Char) :=
  let (value, count, rest) := digitsAt text
  if count = 0 then none
  else if told.afterTime then
    let (minutes, rest) : Option Int × List Char := match rest with
      | ':' :: more =>
        let (minutes, _, rest) := digitsAt more
        (some minutes, rest)
      | rest => (none, rest)
    let seconds := match minutes with
      | some minutes => value * 3600 + minutes * 60
      | none => if count ≤ 2 then value * 3600 else value / 100 * 3600 + value % 100 * 60
    if seconds > 24 * 3600 then none
    else (told.withZone (sign * seconds)).map fun told => (told, rest)
  else
    let (nanosecond, rest) := fractionAt rest
    let (word, after) := wordAt (afterBlanks rest)
    (unitOf? word).map fun unit =>
      let shift := unit.scale (sign * value)
      let shift := if unit.seconds = 1 then { shift with nanoseconds := sign * nanosecond } else shift
      (told.withShift shift, after)

/-- Takes up a word. -/
def Told.takeWord (told : Told) (text : List Char) : Option (Told × List Char) :=
  let (word, rest) := wordAt text
  let notDay (day : Nat) (ordinal : Int) (rest : List Char) : Option (Told × List Char) :=
    if told.day.isSome then none
    else some ({ told with day := some (ordinal, day), afterTime := false }, rest)
  match word with
  | "now" | "today" => some (told.withShift {}, rest)
  | "yesterday" => some (told.withShift { days := -1 }, rest)
  | "tomorrow" => some (told.withShift { days := 1 }, rest)
  | "ago" =>
    some ({ told with shift := told.shift.add (told.newest.scale (-2)), newest := {} }, rest)
  | _ =>
    match nameIndex? monthNames word, nameIndex? dayNames word, ordinalOf? word with
    | some month, _, _ =>
      let body := afterBlanks rest
      let body := if body.head? = some '-' then body.drop 1 else body
      let (day, count, after) := digitsAt body
      if count = 0 then none
      else
        let (year, yearCount, afterYear) :=
          digitsAt (afterBlanks (match afterBlanks after with
            | ',' :: rest => rest
            | '-' :: rest => rest
            | rest => rest))
        if yearCount ≥ 3 ∧ afterYear.head? ≠ some ':' then
          (told.withDate (some (year, yearCount)) (month + 1) day).map fun told => (told, afterYear)
        else (told.withDate none (month + 1) day).map fun told => (told, after)
    | none, some day, _ => notDay day 0 (rest.dropWhile (· == ','))
    | none, none, some ordinal =>
      let (word, after) := wordAt (afterBlanks rest)
      match unitOf? word, nameIndex? dayNames word with
      | some unit, _ => some (told.withShift (unit.scale ordinal), after)
      | none, some day => notDay day ordinal after
      | none, none => none
    | none, none, none =>
      match unitOf? word with
      | some unit => some (told.withShift unit, rest)
      | none =>
        (zoneOf? word).bind fun seconds =>
          -- A zone may be followed by how far another one is ahead of it.
          match rest with
          | sign :: more =>
            if (sign = '+' ∨ sign = '-') ∧ more.head?.any Char.isDigit ∧
                (word = "utc" ∨ word = "gmt") then
              (Told.takeSigned { told with afterTime := true, zone := none }
                (if sign = '-' then -1 else 1) more)
            else (told.withZone seconds).map fun told => (told, rest)
          | [] => (told.withZone seconds).map fun told => (told, rest)

/-- Takes up all that is told. -/
def Told.takeAll (told : Told) : (measure : Nat) → List Char → Option Told
  | 0, _ => none
  | measure + 1, text =>
    match afterBlanks text with
    | [] => some told
    | c :: rest =>
      let taken := if c = ',' then some (told, rest)
        else if c.isDigit then told.takeNumber (c :: rest)
        else if c = '+' then told.takeSigned 1 (afterBlanks rest)
        else if c = '-' then told.takeSigned (-1) (afterBlanks rest)
        else if c.isAlpha then told.takeWord (c :: rest)
        else none
      match taken with
      | some (told, rest) => takeAll told measure rest
      | none => none

/-- A year that is told by two digits lies within a century around the turn. -/
def fullYear (year : Int) (count : Nat) : Int :=
  if count = 2 then (if year < 69 then year + 2000 else year + 1900) else year

/-- The date is one of the calendar. -/
def isDate (year month day : Int) : Bool :=
  1 ≤ month && month ≤ 12 && 1 ≤ day && civilOf (daysOf year month day) == (year, month, day)

/-- The moment that was told, as nanoseconds since the beginning of 1970. -/
def Told.moment? (told : Told) (zone : Zone) (now : Int) : Option Int := do
  let today := Civil.ofMoment zone now
  let (year, month, day) ← match told.date with
    | none => some (today.year, today.month, today.day)
    | some (year, month, day) =>
      let year := (year.map fun (year, count) => fullYear year count).getD today.year
      if isDate year month day then some (year, month, day) else none
  let (seconds, nanoseconds) := match told.time with
    | some time => time
    | none =>
      if told.isShifted ∧ told.date.isNone ∧ told.day.isNone then
        (today.hour * 3600 + today.minute * 60 + today.second, today.nanosecond)
      else (0, 0)
  let days := daysOf year month day
  let days := match told.day, told.date with
    | some (ordinal, weekday), none =>
      let now := weekdayOf days
      let ordinal := if 0 < ordinal ∧ now ≠ weekday then ordinal - 1 else ordinal
      days + ((weekday : Int) - now + 7) % 7 + ordinal * 7
    | _, _ => days
  let (year, month, day) := civilOf days
  let days := daysOf (year + told.shift.years) (month + told.shift.months) (day + told.shift.days)
  let offset := told.zone.getD zone.offset
  return (days * 86400 + seconds - offset + told.shift.seconds) * 10 ^ 9 + nanoseconds +
    told.shift.nanoseconds

/-- The moment of a count of seconds. -/
def countOf? (text : List Char) : Option Int :=
  let (negative, body) := match text with
    | '-' :: rest => (true, rest)
    | '+' :: rest => (false, rest)
    | rest => (false, rest)
  let (seconds, count, rest) := digitsAt body
  let (nanoseconds, rest) := fractionAt rest
  if count = 0 ∨ !(afterBlanks rest).isEmpty then none
  else
    let value := seconds * 10 ^ 9 + nanoseconds
    some (if negative then -value else value)

/-- The moment that words tell in a zone, as nanoseconds since the beginning of 1970. -/
def read? (zone : Zone) (now : Int) (text : String) : Option Int :=
  match afterBlanks text.toList with
  | '@' :: rest => countOf? (afterBlanks rest)
  | chars => (Told.takeAll {} (chars.length + 1) chars).bind (·.moment? zone now)

/-- The moment that a stamp tells: a month, a day, an hour and a minute in two digits each, perhaps
after a year, and perhaps with seconds after a point. -/
def stamp? (zone : Zone) (now : Int) (text : String) : Option Int := do
  let (body, second) ← match text.splitOn "." with
    | [body] => some (body.toList, (0 : Int))
    | [body, seconds] =>
      if seconds.length = 2 ∧ seconds.toList.all Char.isDigit then
        some (body.toList, (Digit.numeral seconds.toList : Int))
      else none
    | _ => none
  if !body.all Char.isDigit ∨ second > 60 then none
  else
    let front := body.take (body.length - 8)
    let two (i : Nat) : Int := Digit.numeral ((body.drop (front.length + 2 * i)).take 2)
    let year ← match front.length with
      | 0 => some (Civil.ofMoment zone now).year
      | 2 => some (fullYear (Digit.numeral front) 2)
      | 4 => some (Digit.numeral front : Int)
      | _ => none
    if body.length < 8 ∨ !isDate year (two 0) (two 1) ∨ two 2 > 23 ∨ two 3 > 59 then none
    else some (secondsOf zone year (two 0) (two 1) (two 2) (two 3) second * 10 ^ 9)

end Calendar

end ArtifactLens.Shell
