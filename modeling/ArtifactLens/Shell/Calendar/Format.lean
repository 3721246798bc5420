import ArtifactLens.Shell.Calendar.Basic

/-!
# Writing moments

A format writes a moment: a percent sign, flags, a width and a letter stand for a piece of it, all
else for itself. `formatted` fills a format.
-/

namespace ArtifactLens.Shell

namespace Calendar

/-- What stands between the percent sign and the letter. -/
structure Marks where
  /-- How numbers are filled up: `_` with blanks, `0` with zeros, `-` not at all. -/
  pad : Option Char := none
  width : Option Nat := none
  upper : Bool := false
  swapped : Bool := false
  colons : Nat := 0

/-- A number of at least so many digits. -/
def numberPiece (marks : Marks) (digits : Nat) (standard : Char) (value : Int) : String :=
  let text := toString value.natAbs
  let sign := if value < 0 then "-" else ""
  let width := marks.width.getD digits
  match marks.pad.getD standard with
  | '-' => sign ++ text
  | '_' => Digit.padLeft width ' ' (sign ++ text)
  | _ => sign ++ Digit.padLeft (width - sign.length) '0' text

/-- A word; `lowerSwapped` tells that the mark for the other case makes it small. -/
def wordPiece (marks : Marks) (lowerSwapped : Bool) (text : String) : String :=
  let text := if marks.swapped then text.map (if lowerSwapped then Char.toLower else Char.toUpper)
    else if marks.upper then text.map Char.toUpper else text
  Digit.padLeft (marks.width.getD 0) (if marks.pad = some '0' then '0' else ' ') text

/-- The hour on a clock of twelve hours. -/
def hourOfTwelve (hour : Int) : Int := if hour % 12 = 0 then 12 else hour % 12

/-- How far the zone is ahead, with so many colons. -/
def offsetPiece (marks : Marks) (offset : Int) : String :=
  let sign := if offset < 0 then "-" else "+"
  let two (n : Nat) : String := Digit.padLeft 2 '0' (toString n)
  let total := offset.natAbs
  let hours := total / 3600
  let minutes := total / 60 % 60
  let seconds := total % 60
  let body := match marks.colons with
    | 0 => two hours ++ two minutes
    | 1 => two hours ++ ":" ++ two minutes
    | 2 => two hours ++ ":" ++ two minutes ++ ":" ++ two seconds
    | _ =>
      if seconds ≠ 0 then two hours ++ ":" ++ two minutes ++ ":" ++ two seconds
      else if minutes ≠ 0 then two hours ++ ":" ++ two minutes
      else two hours
  match marks.pad with
  | some '_' => Digit.padLeft (marks.width.getD 0) ' ' (sign ++ body)
  | _ => sign ++ Digit.padLeft (marks.width.getD 0 - 1) '0' body

/-- The fraction of a second; a width is the number of its digits. -/
def fractionPiece (marks : Marks) (nanosecond : Int) : String :=
  let all := (Digit.padLeft 9 '0' (toString nanosecond.natAbs)).toList
  let width := marks.width.getD 9
  let kept := ((all.take width).reverse.dropWhile (· == '0')).reverse
  let kept := if kept.isEmpty then ['0'] else kept
  match marks.pad with
  | some '-' => String.ofList kept
  | some '_' => String.ofList (kept ++ List.replicate (width - kept.length) ' ')
  | _ => String.ofList (kept ++ List.replicate (width - kept.length) '0')

/-- The format that a letter is short for. -/
def longForm? : Char → Option String
  | 'c' => some "%a %b %e %H:%M:%S %Y"
  | 'D' | 'x' => some "%m/%d/%y"
  | 'F' => some "%Y-%m-%d"
  | 'R' => some "%H:%M"
  | 'r' => some "%I:%M:%S %p"
  | 'T' | 'X' => some "%H:%M:%S"
  | _ => none

/-- The piece of a moment that a letter stands for. -/
def piece? (civil : Civil) (moment : Int) (marks : Marks) (letter : Char) : Option String :=
  let number (digits : Nat) (value : Int) : Option String :=
    some (numberPiece marks digits '0' value)
  let blank (digits : Nat) (value : Int) : Option String :=
    some (numberPiece marks digits '_' value)
  let word (text : String) : Option String := some (wordPiece marks false text)
  let month := monthNames.getD (civil.month - 1).toNat "?"
  let day := dayNames.getD civil.weekday "?"
  let (isoYear, week) := isoWeek civil
  match letter with
  | '%' => word "%"
  | 'n' => word "\n"
  | 't' => word "\t"
  | 'a' => word (day.take 3).toString
  | 'A' => word day
  | 'b' | 'h' => word (month.take 3).toString
  | 'B' => word month
  | 'C' => number 2 (civil.year / 100)
  | 'd' => number 2 civil.day
  | 'e' => blank 2 civil.day
  | 'g' => number 2 (isoYear % 100)
  | 'G' => number 1 isoYear
  | 'H' => number 2 civil.hour
  | 'I' => number 2 (hourOfTwelve civil.hour)
  | 'j' => number 3 (civil.dayOfYear + 1)
  | 'k' => blank 2 civil.hour
  | 'l' => blank 2 (hourOfTwelve civil.hour)
  | 'm' => number 2 civil.month
  | 'M' => number 2 civil.minute
  | 'N' => some (fractionPiece marks civil.nanosecond)
  | 'p' => some (wordPiece marks true (if civil.hour < 12 then "AM" else "PM"))
  | 'P' => word (if civil.hour < 12 then "am" else "pm")
  | 'q' => number 1 ((civil.month - 1) / 3 + 1)
  | 's' => number 1 (moment / 10 ^ 9)
  | 'S' => number 2 civil.second
  | 'u' => number 1 (if civil.weekday = 0 then 7 else civil.weekday)
  | 'U' => number 2 ((civil.dayOfYear + 7 - civil.weekday) / 7)
  | 'V' => number 2 week
  | 'w' => number 1 civil.weekday
  | 'W' => number 2 ((civil.dayOfYear + 7 - (civil.weekday + 6) % 7) / 7)
  | 'y' => number 2 (civil.year % 100)
  | 'Y' => number (if civil.year < 0 then 5 else 4) civil.year
  | 'z' => some (offsetPiece marks civil.zone.offset)
  | 'Z' => some (wordPiece marks true civil.zone.name)
  | _ => none

/-- Reads the marks after a percent sign. -/
def marksOf (text : List Char) : Marks × List Char :=
  let flags := text.takeWhile ("_-+0^#".contains ·)
  let marks := flags.foldl (fun marks c => match c with
    | '^' => { marks with upper := true }
    | '#' => { marks with swapped := true }
    | '+' => { marks with pad := some '0' }
    | c => { marks with pad := some c }) ({} : Marks)
  let rest := text.drop flags.length
  let digits := rest.takeWhile Char.isDigit
  let rest := rest.drop digits.length
  let marks := if digits.isEmpty then marks else { marks with width := some (Digit.numeral digits) }
  let rest := if rest.head?.any ("EO".contains ·) then rest.drop 1 else rest
  let colons := rest.takeWhile (· == ':')
  ({ marks with colons := colons.length }, rest.drop colons.length)

/-- Fills a format; letters that are short for formats may be met `depth` deep. -/
def formattedFrom (civil : Civil) (moment : Int) (depth : Nat) : (measure : Nat) → List Char → String
  | 0, _ => ""
  | measure + 1, text =>
    match text with
    | [] => ""
    | '%' :: rest =>
      let (marks, after) := marksOf rest
      match after with
      | [] => "%" ++ String.ofList rest
      | letter :: more =>
        let next := formattedFrom civil moment depth measure more
        let isPlain := marks.colons = 0 || letter == 'z'
        match (if isPlain then longForm? letter else none), depth with
        | some format, deeper + 1 =>
          wordPiece marks false (formattedFrom civil moment deeper measure format.toList) ++ next
        | _, _ =>
          match if isPlain then piece? civil moment marks letter else none with
          | some piece => piece ++ next
          | none =>
            "%" ++ String.ofList (rest.take (rest.length - more.length)) ++ next
    | c :: rest => String.singleton c ++ formattedFrom civil moment depth measure rest
  termination_by measure => (depth, measure)

/-- Writes a moment in a zone as a format says. -/
def formatted (zone : Zone) (format : String) (moment : Int) : String :=
  formattedFrom (Civil.ofMoment zone moment) moment 1 (format.length + 20) format.toList

end Calendar

end ArtifactLens.Shell
