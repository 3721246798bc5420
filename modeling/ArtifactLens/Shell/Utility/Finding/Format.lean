import ArtifactLens.Shell.Calendar.Format
import ArtifactLens.Shell.Conversion
import ArtifactLens.Shell.Utility.Finding.Term

/-!
# Formats of what is found

A format is a text with escapes and with marks, which begin with a percent sign and stand for what
is known of a file.
-/

namespace ArtifactLens.Shell

namespace Utility

namespace Finding

/-- What is wrong with a format: a warning, or the reason to refuse it. -/
inductive FormatFlaw where
  | warning (text : String)
  | refusal (text : String)

/-- The letters that may follow those for moments. -/
def momentLetters : List Char := "aAbBcCdDFgGhHIjklmMnprRsSTUuVwWxXyYZz@+et".toList

/-- The letters of marks. -/
def markLetters : List Char := "abcdDfFgGhHiklmMnpPsStuUyYZ".toList

/-- The octet of an escape. -/
def escapeOctet? : Char → Option Char
  | 'a' => some '\x07'
  | 'b' => some '\x08'
  | 'f' => some '\x0c'
  | 'n' => some '\n'
  | 'r' => some '\r'
  | 't' => some '\t'
  | 'v' => some '\x0b'
  | '\\' => some '\\'
  | _ => none

/-- Adds characters to the pieces read, which stand in reverse. -/
def addText (done : List FormatPiece) (chars : List Char) : List FormatPiece :=
  match done with
  | .text text :: rest => .text (text ++ String.ofList chars) :: rest
  | _ => .text (String.ofList chars) :: done

/-- Reads a format: its pieces, and what is wrong with it. -/
def readFormat (done : List FormatPiece) (flaws : List FormatFlaw) :
    (measure : Nat) → List Char → List FormatPiece × List FormatFlaw
  | 0, _ => (done.reverse, flaws.reverse)
  | _ + 1, [] => (done.reverse, flaws.reverse)
  | measure + 1, '\\' :: rest =>
    match rest with
    | [] =>
      (((addText done ['\\']).reverse),
        (.warning "escape \x60\\' followed by nothing at all" :: flaws).reverse)
    | 'c' :: _ => ((.stop :: done).reverse, flaws.reverse)
    | c :: more =>
      let digits := (rest.take 3).takeWhile fun d => '0' ≤ d && d ≤ '7'
      if !digits.isEmpty then
        let value := digits.foldl (fun value d => 8 * value + (d.toNat - 48)) 0
        readFormat (addText done [Char.ofNat (value % 256)]) flaws measure (rest.drop digits.length)
      else
        match escapeOctet? c with
        | some octet => readFormat (addText done [octet]) flaws measure more
        | none =>
          readFormat (addText done ['\\', c])
            (.warning ("unrecognized escape \x60\\" ++ String.singleton c ++ "'") :: flaws) measure more
  | measure + 1, '%' :: rest =>
    let flags := rest.takeWhile ("-+ #0".contains ·)
    let after := rest.drop flags.length
    let width := after.takeWhile Char.isDigit
    let after := after.drop width.length
    let (precision, after) : Option Nat × List Char := match after with
      | '.' :: more =>
        let digits := more.takeWhile Char.isDigit
        (some (Digit.numeral digits), more.drop digits.length)
      | _ => (none, after)
    let marks : StatMarks := { flags, width := Digit.numeral width, precision }
    let spelled := '%' :: rest.take (rest.length - after.length)
    match after with
    | [] =>
      (done.reverse, (.refusal "error: % at end of format string" :: flaws).reverse)
    | '%' :: more => readFormat (addText done ['%']) flaws measure more
    | c :: more =>
      let isMoment := "ABCT".contains c
      match isMoment, more with
      | true, letter :: more =>
        if momentLetters.contains letter then
          readFormat (.mark marks c letter :: done) flaws measure more
        else readFormat (addText done ['%', letter]) flaws measure more
      | true, [] =>
        (done.reverse, (.refusal "error: % at end of format string" :: flaws).reverse)
      | false, more =>
        if markLetters.contains c then readFormat (.mark marks c ' ' :: done) flaws measure more
        else if "\x7b[(".contains c then
          (done.reverse, (.refusal ("error: the format directive \x60%" ++ String.singleton c ++
            "' is reserved for future use") :: flaws).reverse)
        else
          readFormat (addText done (spelled ++ [c]))
            (.warning ("unrecognized format directive \x60%" ++ String.singleton c ++ "'") :: flaws)
            measure more
  | measure + 1, c :: rest => readFormat (addText done [c]) flaws measure rest

/-- The fraction of a second with ten places. -/
def tenPlaces (moment : Int) : String :=
  "." ++ Digit.padLeft 9 '0' (toString (moment % 10 ^ 9)) ++ "0"

/-- A moment as a letter tells it. -/
def momentPiece (zone : Calendar.Zone) (moment : Int) (letter : Char) : String :=
  let fraction := tenPlaces moment
  match letter with
  | '@' => toString (moment / 10 ^ 9) ++ fraction
  | 'S' => Calendar.formatted zone "%S" moment ++ fraction
  | 'T' | 'X' => Calendar.formatted zone "%H:%M:%S" moment ++ fraction
  | '+' => Calendar.formatted zone "%Y-%m-%d+%H:%M:%S" moment ++ fraction
  | letter => Calendar.formatted zone ("%" ++ String.singleton letter) moment

/-- A moment in words. -/
def momentWords (zone : Calendar.Zone) (moment : Int) : String :=
  Calendar.formatted zone "%a %b %e %H:%M:%S" moment ++ tenPlaces moment ++
    Calendar.formatted zone " %Y" moment

/-- What stands in place of a mark. -/
def markText (call : Invocation) (disk : Disk) (here : FileNumber) (found : Found)
    (marks : StatMarks) (letter more : Char) : String :=
  let file := found.file
  let zone := zoneOf call
  let word (text : String) : String := marks.word text
  let number (value : Nat) : String := marks.number 10 value
  match letter with
  | 'a' => word (momentWords zone file.accessed)
  | 'c' => word (momentWords zone file.changed)
  | 't' => word (momentWords zone file.modified)
  | 'A' => word (momentPiece zone file.accessed more)
  | 'C' => word (momentPiece zone file.changed more)
  | 'T' => word (momentPiece zone file.modified more)
  | 'b' => word (toString (blocksOf file))
  | 'k' => word (toString ((blocksOf file + 1) / 2))
  | 'd' => number found.depth
  | 'D' => word "45"
  | 'f' => word (if found.path.toList.all (· == '/') then "/" else nameWithSlashes found.path)
  | 'F' => word "overlay"
  | 'g' => word (accountName file.group)
  | 'G' => word (toString file.group)
  | 'h' =>
    let path := trimSlashes found.path
    word (if !path.contains '/' then "." else
      (path.toList.reverse.dropWhile (· != '/')).drop 1 |>.reverse |> String.ofList)
  | 'H' => word found.start
  | 'i' => word (toString (1048576 + found.number))
  | 'l' => match file.body with
    | .link target => word target
    | _ => word ""
  | 'm' => marks.number 8 file.mode
  | 'M' => word (modeLetters file)
  | 'n' => word (toString (disk.linkCount found.number))
  | 'p' => word found.path
  | 'P' =>
    let rest := (found.path.drop found.start.length).toString
    word (if rest.startsWith "/" then (rest.drop 1).toString else rest)
  | 's' => word (toString file.size)
  | 'S' =>
    let parts := if file.size = 0 then (1, 1) else (512 * blocksOf file, file.size)
    word (({ letter := 'g' } : Conversion).quotient false parts.1 parts.2)
  | 'u' => word (accountName file.owner)
  | 'U' => word (toString file.owner)
  | 'y' => word (String.singleton (kindOfFile file))
  | 'Y' =>
    if !file.isLink then word (String.singleton (kindOfFile file))
    else
      match disk.inspect here found.path with
      | .ok (_, file) => word (String.singleton (kindOfFile file))
      | .error .missing => word "N"
      | .error .tooManyLinks => word "L"
      | .error _ => word "?"
  | _ => ""

/-- Fills a format, up to where it stops. -/
def fillFormat (call : Invocation) (disk : Disk) (here : FileNumber) (found : Found) : List FormatPiece → String
  | [] => ""
  | .stop :: _ => ""
  | .text text :: rest => text ++ fillFormat call disk here found rest
  | .mark marks letter more :: rest =>
    markText call disk here found marks letter more ++
      fillFormat call disk here found rest

/-- The line of a file in a list. -/
def listLine (call : Invocation) (disk : Disk) (now : Int) (found : Found) : String :=
  let file := found.file
  let isRecent := now - 15778476 * 10 ^ 9 < file.modified && file.modified ≤ now
  let left (text : String) : String :=
    text ++ String.ofList (List.replicate (8 - text.length) ' ')
  let size := match file.body with
    | .device _ =>
      let (major, minor) := deviceNumbers file
      right 3 (toString major) ++ ", " ++ right 3 (toString minor)
    | _ => right 8 (toString file.size)
  let target := match file.body with
    | .link target => " -> " ++ target
    | _ => ""
  String.join [right 9 (toString (1048576 + found.number)), " ",
    right 6 (toString ((blocksOf file + 1) / 2)), " ", modeLetters file, " ",
    right 3 (toString (disk.linkCount found.number)), " ", left (accountName file.owner), " ",
    left (accountName file.group), " ", size, " ",
    Calendar.formatted (zoneOf call) (if isRecent then "%b %e %H:%M" else "%b %e  %Y") file.modified,
    " ", found.path, target, "\n"]

end Finding

end Utility

end ArtifactLens.Shell
