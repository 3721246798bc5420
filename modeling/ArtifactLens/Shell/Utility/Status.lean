import ArtifactLens.Shell.Calendar.Format
import ArtifactLens.Shell.Utility.Linking

/-!
# What is known of files

The programs that tell where paths lead (`readlink`, `realpath`) and what is known of the files there
(`stat`).
-/

namespace ArtifactLens.Shell

namespace Utility

/-! ### Where paths lead -/

/-- How much of a path has to be there. -/
inductive Presence where
  | all
  | allButLast
  | none
  deriving DecidableEq

/-- The path without links to where a path leads. -/
def canonical (disk : Disk) (here : FileNumber) (presence : Presence) (path : String) :
    Except SystemFault String :=
  match presence with
  | .none => if path = "" then .error .missing else .ok (spelledOut disk here 1000 path)
  | .all =>
    match disk.resolve here path with
    | .error fault => .error fault
    | .ok spot => if spot.file?.isNone then .error .missing else .ok (disk.pathOfSpot spot)
  | .allButLast =>
    match disk.resolve here path with
    | .error fault => .error fault
    | .ok spot => .ok (disk.pathOfSpot spot)

/-- A path with its dots resolved by their neighbours alone. -/
def plainPath (disk : Disk) (here : FileNumber) (path : String) : String :=
  let start := if path.startsWith "/" then [] else namesIn (disk.pathOf here)
  let names := (namesIn path).foldl (fun names name =>
    if name = "." then names else if name = ".." then names.dropLast else names ++ [name]) start
  "/" ++ String.intercalate "/" names

/-- The program `readlink`. -/
def readlink : Utility := fun call =>
  let accepted : Accepted :=
    { letters := "efmnqsvz"
      names := [("canonicalize", 'f'), ("canonicalize-existing", 'e'),
        ("canonicalize-missing", 'm'), ("no-newline", 'n'), ("quiet", 'q'), ("silent", 's'),
        ("verbose", 'v'), ("zero", 'z')] }
  accepted.read call 1 fun arguments =>
    let presence? : Option Presence := (arguments.last? ['e', 'f', 'm']).map fun option =>
      if option.1 = 'e' then .all else if option.1 = 'm' then .none else .allButLast
    let tells := (arguments.last? ['q', 's', 'v']).any (·.1 == 'v')
    if arguments.operands.isEmpty then Job.misuse call "missing operand"
    else
      let dropsEnd := arguments.has 'n' && arguments.operands.length == 1
      let act : Filing Unit := do
        if arguments.has 'n' ∧ !dropsEnd then
          Filing.warn "ignoring --no-newline with multiple arguments"
        arguments.operands.forM fun path => do
          let state ← get
          let here := state.stand.directory
          let found : Except SystemFault String := match presence? with
            | some presence => canonical state.disk here presence path
            | none =>
              match state.disk.inspect here path false with
              | .error fault => .error fault
              | .ok (_, { body := .link target, .. }) => .ok target
              | .ok _ => .error .invalid
          match found with
          | .ok text =>
            Filing.say (text ++ (if arguments.has 'z' then "\x00" else if dropsEnd then "" else "\n"))
          | .error fault =>
            if tells then Filing.complainOf path fault
            else modify fun state => { state with failed := true }
      Filing.job call act

/-- The program `realpath`. -/
def realpath : Utility := fun call =>
  let accepted : Accepted :=
    { letters := "eEmLPqszτ:β:"
      names := [("canonicalize-existing", 'e'), ("canonicalize-missing", 'm'), ("relative-to", 'τ'),
        ("relative-base", 'β'), ("quiet", 'q'), ("strip", 's'), ("no-symlinks", 's'), ("zero", 'z'),
        ("logical", 'L'), ("physical", 'P')] }
  accepted.read call 1 fun arguments =>
    let presence : Presence := match arguments.last? ['e', 'm'] with
      | some ('e', _) => .all
      | some _ => .none
      | none => .allButLast
    let plain := (arguments.last? ['s', 'L', 'P']).any (·.1 == 's')
    let logical := (arguments.last? ['s', 'L', 'P']).any (·.1 == 'L')
    if arguments.operands.isEmpty then Job.misuse call "missing operand"
    else
      .disk fun disk stand =>
        let here := stand.directory
        let find (path : String) : Except SystemFault String :=
          if path = "" then .error .missing
          else if plain then
            if presence = .none then .ok (plainPath disk here path)
            else
              match disk.inspect here (if presence = .all then path else directoryName path) with
              | .ok _ => .ok (plainPath disk here path)
              | .error fault => .error fault
          else if logical then canonical disk here presence (plainPath disk here path)
          else canonical disk here presence path
        let isWithin (outer inner : String) : Bool :=
          (namesIn outer).isPrefixOf (namesIn inner)
        let bases := [arguments.value? 'τ', arguments.value? 'β']
        let found := bases.map fun path? => path?.map fun path => (path, find path)
        match found.findSome? fun entry =>
            match entry with
            | some (path, .error fault) => some (path, fault)
            | _ => none with
        | some (path, fault) => (disk, Job.fail call (path ++ ": " ++ fault.message))
        | none =>
          let value (entry : Option (Option (String × Except SystemFault String))) : Option String :=
            entry.join.bind fun entry => entry.2.toOption
          let base? := value found[1]?
          let way? := value found[0]?
          -- Without a base of its own the way is told from the directory that limits it.
          let (way?, base?) := match way?, base? with
            | some way, some base => if isWithin base way then (some way, some base) else (none, none)
            | none, some base => (some base, some base)
            | way?, none => (way?, none)
          let shown (path : String) : String :=
            match way? with
            | some way =>
              if base?.all (isWithin · path) then relativePath way path else path
            | none => path
          let ending := if arguments.has 'z' then "\x00" else "\n"
          (disk, Filing.job call (arguments.operands.forM fun path =>
            match find path with
            | .ok text => Filing.say (shown text ++ ending)
            | .error fault =>
              if arguments.has 'q' then modify fun state => { state with failed := true }
              else Filing.complainOf path fault))

/-! ### Status -/

/-- What kind of file it is, in words. -/
def kindWords (file : DiskFile) : String := kindOf file

/-- The number of a mode with the bits that tell the kind of file. -/
def rawMode (file : DiskFile) : Nat :=
  file.mode ||| match file.body with
    | .octets _ | .program _ => 0o100000
    | .directory .. => 0o040000
    | .link _ => 0o120000
    | .device _ => 0o020000

/-- The number of half-kilooctets that a file takes. -/
def blocksOf (file : DiskFile) : Nat :=
  match file.body with
  | .octets content => (content.length + 4095) / 4096 * 8
  | .directory .. => 8
  | _ => 0

/-- The numbers of a device. -/
def deviceNumbers (file : DiskFile) : Nat × Nat :=
  match file.body with
  | .device .null => (1, 3)
  | .device .zero => (1, 5)
  | .device .full => (1, 7)
  | .device (.descriptor _) => (1, 3)
  | _ => (0, 0)

/-- The name of an account or a group by number. -/
def accountName (number : Nat) : String :=
  match Disk.accounts.find? (·.2.1 == number) with
  | some account => account.1
  | none => "UNKNOWN"

/-- What stands between the percent sign and the letter of a format. -/
structure StatMarks where
  flags : List Char := []
  width : Nat := 0
  precision : Option Nat := none

/-- Fills up a text. -/
def StatMarks.fill (marks : StatMarks) (isNumber : Bool) (text : String) : String :=
  let missing := List.replicate (marks.width - text.length)
  if marks.flags.contains '-' then text ++ String.ofList (missing ' ')
  else if isNumber ∧ marks.flags.contains '0' then String.ofList (missing '0') ++ text
  else String.ofList (missing ' ') ++ text

/-- A word, cut to the precision. -/
def StatMarks.word (marks : StatMarks) (text : String) : String :=
  marks.fill false (match marks.precision with
    | some count => (text.take count).toString
    | none => text)

/-- A number in a base. -/
def StatMarks.number (marks : StatMarks) (base value : Nat) : String :=
  let digits := String.ofList (Digit.digitsFrom base (value.log2 + 1) value).reverse
  let digits := Digit.padLeft (marks.precision.getD 1) '0' digits
  let sign := if base = 10 ∧ marks.flags.contains '+' then "+"
    else if base = 10 ∧ marks.flags.contains ' ' then " "
    else if !marks.flags.contains '#' ∨ value = 0 then ""
    else if base = 8 then "0" else if base = 16 then "0x" else ""
  marks.fill true (sign ++ digits)

/-- A moment in seconds, with as many places as the precision tells. -/
def StatMarks.seconds (marks : StatMarks) (hasPoint : Bool) (moment : Int) : String :=
  let places := if hasPoint then marks.precision.getD 9 else 0
  let whole := moment / 10 ^ 9
  let nine := Digit.padLeft 9 '0' (toString (moment % 10 ^ 9))
  let fraction := (nine.toList ++ List.replicate (places - 9) '0').take places
  marks.fill true (toString whole ++ (if places = 0 then "" else "." ++ String.ofList fraction))

/-- A moment in words. -/
def momentText (zone : Calendar.Zone) (moment : Int) : String :=
  Calendar.formatted zone "%Y-%m-%d %H:%M:%S.%N %z" moment

/-- The file that a format is filled for. -/
structure StatSubject where
  call : Invocation
  disk : Disk
  path : String
  number : FileNumber
  file : DiskFile

/-- What stands in place of a letter. -/
def StatSubject.piece? (subject : StatSubject) (marks : StatMarks) (hasPoint : Bool)
    (letter : Char) : Option String :=
  let file := subject.file
  let zone := zoneOf subject.call
  let word (text : String) : Option String := some (marks.word text)
  let number (value : Nat) : Option String := some (marks.number 10 value)
  let (major, minor) := deviceNumbers file
  match letter with
  | 'a' => some (marks.number 8 file.mode)
  | 'A' => word (modeLetters file)
  | 'b' => number (blocksOf file)
  | 'B' => number 512
  | 'C' => word "?"
  | 'd' => number 45
  | 'D' => some (marks.number 16 45)
  | 'f' => some (marks.number 16 (rawMode file))
  | 'F' => word (kindWords file)
  | 'g' => number file.group
  | 'G' => word (accountName file.group)
  | 'h' => number (subject.disk.linkCount subject.number)
  | 'i' => number (1048576 + subject.number)
  | 'm' => word "/"
  | 'n' => word subject.path
  | 'N' =>
    match file.body with
    | .link target =>
      word (subject.call.quoteName subject.path ++ " -> " ++ subject.call.quoteName target)
    | _ => word (subject.call.quoteName subject.path)
  | 'o' => number 4096
  | 'r' => number (major * 256 + minor)
  | 's' => number (match file.body with
    | .directory .. => 4096
    | _ => file.size)
  | 't' => some (marks.number 16 major)
  | 'T' => some (marks.number 16 minor)
  | 'u' => number file.owner
  | 'U' => word (accountName file.owner)
  | 'w' => word (momentText zone file.changed)
  | 'W' => some (marks.seconds hasPoint file.changed)
  | 'x' => word (momentText zone file.accessed)
  | 'X' => some (marks.seconds hasPoint file.accessed)
  | 'y' => word (momentText zone file.modified)
  | 'Y' => some (marks.seconds hasPoint file.modified)
  | 'z' => word (momentText zone file.changed)
  | 'Z' => some (marks.seconds hasPoint file.changed)
  | '?' => word "?"
  | _ => none

/-- Fills a format; with `escapes` backslashes have a meaning. -/
def StatSubject.fill (subject : StatSubject) (escapes : Bool) :
    (measure : Nat) → List Char → Except String String
  | 0, _ => .ok ""
  | measure + 1, text =>
    match text with
    | [] => .ok ""
    | '%' :: rest =>
      let flags := rest.takeWhile ("'-+ #0I".contains ·)
      let after := rest.drop flags.length
      let digits := after.takeWhile Char.isDigit
      let after := after.drop digits.length
      let (precision, after) : Option (List Char) × List Char := match after with
        | '.' :: more =>
          let places := more.takeWhile Char.isDigit
          (some places, more.drop places.length)
        | after => (none, after)
      let hasPoint := precision.isSome
      let marks : StatMarks :=
        { flags, width := Digit.numeral digits
          precision := precision.bind fun places =>
            if places.isEmpty then (if hasPoint then none else some 0)
            else some (Digit.numeral places) }
      let plain := after.length == rest.length
      match after with
      | [] =>
        if plain then .ok "%" else .error (String.ofList ('%' :: rest))
      | letter :: more =>
        let (taken, more) := match letter, more with
          | 'H', c :: more | 'L', c :: more =>
            if c = 'd' ∨ c = 'r' then (some (marks.number 10 (if letter = 'H' then 0 else 45)), more)
            else (some "?", c :: more)
          | letter, more => (subject.piece? marks hasPoint letter, more)
        if letter = '%' then
          if plain then (fill subject escapes measure more).map ("%" ++ ·)
          else .error (String.ofList ('%' :: rest.take (rest.length - more.length)))
        else (fill subject escapes measure more).map (taken.getD "?" ++ ·)
    | '\\' :: rest =>
      if !escapes then (fill subject escapes measure rest).map ("\\" ++ ·)
      else
        let octal := (rest.take 3).takeWhile ModeChange.isOctal
        if !octal.isEmpty then
          (fill subject escapes measure (rest.drop octal.length)).map
            (String.singleton (Char.ofNat (Arithmetic.digitsValue 8 octal % 256)) ++ ·)
        else
          match rest with
          | [] => .ok "\\"
          | 'x' :: more =>
            let digits := (more.take 2).takeWhile fun c => (Digit.hexValue? c).isSome
            (fill subject escapes measure (more.drop digits.length)).map
              ((if digits.isEmpty then "x"
                else String.singleton (Char.ofNat (Digit.hexNumeral digits))) ++ ·)
          | c :: more =>
            let shown := match c with
              | 'a' => '\x07'
              | 'b' => '\x08'
              | 'e' => '\x1b'
              | 'f' => '\x0c'
              | 'n' => '\n'
              | 'r' => '\r'
              | 't' => '\t'
              | 'v' => '\x0b'
              | c => c
            (fill subject escapes measure more).map (String.singleton shown ++ ·)
    | c :: rest => (fill subject escapes measure rest).map (String.singleton c ++ ·)

/-- The format of all that is told of a file. -/
def fullFormat (file : DiskFile) : String :=
  let size := match file.body with
    | .device _ => "Device: %Hd,%Ld\tInode: %-10i  Links: %-5h Device type: %t,%T\n"
    | _ => "Device: %Hd,%Ld\tInode: %-10i  Links: %h\n"
  "  File: %N\n  Size: %-10s\tBlocks: %-10b IO Block: %-6o %F\n" ++ size ++
    "Access: (%04a/%10.10A)  Uid: (%5u/%8U)   Gid: (%5g/%8G)\n" ++
    "Access: %x\nModify: %y\nChange: %z\n Birth: %w\n"

/-- The format of all that is told of a file in one line. -/
def terseFormat : String := "%n %s %b %f %u %g %D %i %h %t %T %X %Y %Z %W %o\n"

/-- The program `stat`. -/
def stat : Utility := fun call =>
  let accepted : Accepted :=
    { letters := "c:fLtπ:κ:"
      names := [("dereference", 'L'), ("file-system", 'f'), ("format", 'c'), ("printf", 'π'),
        ("terse", 't'), ("cached", 'κ')] }
  accepted.read call 1 fun arguments =>
    if arguments.operands.isEmpty then Job.misuse call "missing operand"
    else
      let asked := arguments.last? ['c', 'π']
      Filing.job call (arguments.operands.forM fun path => do
        match ← Filing.inspect path (arguments.has 'L') with
        | .error fault => Filing.complainOf ("cannot statx " ++ (← Filing.quoteName path)) fault
        | .ok (number, file) =>
          let subject : StatSubject := { call, disk := (← get).disk, path, number, file }
          let (format, escapes) := match asked with
            | some ('π', format) => (format, true)
            | some (_, format) => (format ++ "\n", false)
            | none => (if arguments.has 't' then terseFormat else fullFormat file, false)
          match subject.fill escapes (format.length + 1) format.toList with
          | .ok text => Filing.say text
          | .error directive =>
            Filing.complain ((← Filing.quote directive) ++ ": invalid directive"))

end Utility

end ArtifactLens.Shell
