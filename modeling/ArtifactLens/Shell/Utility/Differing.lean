import ArtifactLens.Shell.Calendar.Format
import ArtifactLens.Shell.Utility.Differing.Orders
import ArtifactLens.Shell.Utility.Filtering
import ArtifactLens.Shell.Utility.Making
import ArtifactLens.Shell.Utility.Removing
import ArtifactLens.Shell.Utility.Searching

/-!
# Telling files apart

The program `diff` compares two files line by line, or two directories name by name. What it finds out
about two texts is a `Finding`; pairs of files wait in a list of errands, to which those of a pair of
directories are added in front (`Orders.run`).
-/

namespace ArtifactLens.Shell

namespace Utility

namespace Difference

/-- One of two files that are compared. -/
structure Party where
  name : String
  /-- The file with its number, unless it is a stream. What is absent counts as a file of the kind of the
  other one. -/
  file? : Option (FileNumber × DiskFile) := none
  isAbsent : Bool := false
  /-- It is the input proper. -/
  isInput : Bool := false

namespace Party

/-- A directory. -/
def isDirectory (party : Party) : Bool := party.file?.any (·.2.isDirectory)

/-- A store of octets or a link. -/
def isStored (party : Party) : Bool := party.file?.any fun (_, file) => file.isRegular || file.isLink

/-- What kind of file it is. -/
def kind (party : Party) : String := (party.file?.map fun (_, file) => kindOf file).getD "fifo"

/-- When it was last changed. -/
def moment (party : Party) (now : Int) : Int :=
  if party.isAbsent then 0
  else if party.isInput then now
  else (party.file?.map (·.2.modified)).getD now

/-- Both are the same file. -/
def isSame (first second : Party) : Bool :=
  !first.isAbsent && !second.isAbsent && first.isInput == second.isInput &&
    (first.isInput || (first.file?.isSome && first.file?.map (·.1) == second.file?.map (·.1)))

/-- A file that nobody may use and that holds nothing. -/
def isPlaceholder (party : Party) : Bool :=
  !party.isInput && party.file?.any fun (_, file) =>
    file.isRegular && file.mode % 0o1000 == 0 && file.size == 0

end Party

/-- What is found out about a pair of texts. -/
structure Finding where
  text : String := ""
  complaints : List String := []
  status : Nat := 0

/-- A name in a heading: in quotes with escapes if it holds a blank or what has to be escaped. -/
def headingName (name : String) : String :=
  let escape (c : Char) : List Char :=
    match Quoting.escapeLetter? c.toNat with
    | some letter => ['\\', letter]
    | none =>
      if c = '"' ∨ c = '\\' then ['\\', c]
      else if c.toNat < 0x20 ∨ 0x80 ≤ c.toNat then Quoting.octal c
      else [c]
  let text := name.toList.flatMap escape
  if name.contains ' ' ∨ text.length ≠ name.length then "\"" ++ String.ofList text ++ "\"" else name

/-- A path below a directory, whose slashes at the end do not count. -/
def innerPath (directory name : String) : String :=
  let trimmed := String.ofList (directory.toList.reverse.dropWhile (· == '/')).reverse
  trimmed ++ "/" ++ name

namespace Orders

/-- The names that two files are shown by. -/
def titles (orders : Orders) (first second : Party) : String × String :=
  (orders.labels.1.getD first.name, orders.labels.2.getD second.name)

/-- What is told of changes. -/
def body (orders : Orders) (first second : Side) (changes : List Change) : String :=
  let showing := orders.showing
  let each (hunk : Extent → String) (changes : List Change) : String :=
    String.join ((changes.filterMap fun change => showing.extent? first second [change]).map hunk)
  match showing.style with
  | .normal => each (showing.normalHunk first second) changes
  | .context | .unified => showing.withContext first second changes
  | .editor => each (showing.editorHunk second) changes.reverse
  | .forward => each (showing.forwardHunk second) changes
  | .counted => each (showing.countedHunk second) changes
  | .beside => showing.rows first second 0 0 changes
  | .formats => showing.byFormats first second 0 0 changes

/-- The line about one side at the top of what is told with context. -/
def sideLine (orders : Orders) (mark : String) (side : Side) : String :=
  let showing := orders.showing
  let title := match side.label with
    | some label => label
    | none => headingName side.name ++ "\t" ++
      Calendar.formatted (zoneOf showing.call) orders.momentFormat side.moment
  showing.paint .header (mark ++ " " ++ title) ++ "\n"

/-- What stands above what is told of a pair. -/
def header (orders : Orders) (isInner : Bool) (first second : Side) : String :=
  (if isInner then
    orders.heading ++ " " ++ headingName first.title ++ " " ++ headingName second.title ++ "\n"
  else "") ++
    match orders.showing.style with
    | .context => orders.sideLine "***" first ++ orders.sideLine "---" second
    | .unified => orders.sideLine "---" first ++ orders.sideLine "+++" second
    | _ => ""

/-- How much of a text is looked at to see whether it is one. -/
def sampleSize : Nat := 4096

/-- What is found out about two texts. -/
def compareTexts (orders : Orders) (isInner : Bool) (now : Int) (first second : Party × String) :
    Finding :=
  let (title0, title1) := orders.titles first.1 second.1
  let briefly (differ : Bool) : Finding :=
    let what := if orders.isBrief then "Files " else "Binary files "
    if differ then { text := what ++ title0 ++ " and " ++ title1 ++ " differ\n", status := 1 } else {}
  let isBinary (text : String) : Bool := (text.take sampleSize).contains '\x00'
  if orders.comparesOctets ∨ (!orders.areTexts ∧ (isBinary first.2 ∨ isBinary second.2)) then
    briefly (first.2 != second.2)
  else
    let showing := orders.showing
    let side (label : Option String) (party : Party × String) : Side :=
      let side := Side.ofText party.1.name label (party.1.moment now) party.2
      if orders.sparesReturns then
        { side with lines := side.lines.map fun line => line.dropSuffix "\r" |>.toString }
      else side
    let sides := (side orders.labels.1 first, side orders.labels.2 second)
    let changes := orders.likeness.compare sides.1 sides.2
    let differ := if showing.isPicky then
        changes.any fun change => (showing.extent? sides.1 sides.2 [change]).isSome
      else !changes.isEmpty
    let found : Finding :=
      if orders.isBrief then briefly differ
      else
        let status := if differ then 1 else 0
        if !differ ∧ orders.passesOver then {}
        else
          let body := orders.body sides.1 sides.2 changes
          if body = "" ∧ showing.style ≠ .beside then { status }
          else { text := orders.header isInner sides.1 sides.2 ++ body, status }
    let open_ := if orders.likeness.heedsEnd then []
      else [sides.1, sides.2].filter fun side => !side.isEnded
    if open_.isEmpty then found
    else
      { found with
        complaints := open_.map fun side => side.title ++ ": No newline at end of file\n", status := 2 }

/-- The names in a directory that are not left out, in order. -/
def namesIn (orders : Orders) (disk : Disk) (party : Party) (isTop : Bool) : List String :=
  match party.isAbsent, party.file? with
  | false, some (number, _) =>
    let isOut (name : String) : Bool := orders.excluded.any fun pattern =>
      Searching.isLike (orders.nameKey name) (orders.nameKey pattern)
    let isBefore (name : String) : Bool := isTop &&
      orders.start.any fun start => orders.nameKey name < orders.nameKey start
    let names := (disk.list number).filter fun name => !isOut name && !isBefore name
    names.mergeSort fun a b => orders.nameKey a ≤ orders.nameKey b
  | _, _ => []

/-- Names of two directories, those that belong together as pairs. -/
def pairs (orders : Orders) : (measure : Nat) → List String → List String →
    List (Option String × Option String)
  | 0, _, _ => []
  | _ + 1, first, [] => first.map (some ·, none)
  | _ + 1, [], second => second.map (none, some ·)
  | measure + 1, a :: first, b :: second =>
    match compare (orders.nameKey a) (orders.nameKey b) with
    | .lt => (some a, none) :: pairs orders measure first (b :: second)
    | .gt => (none, some b) :: pairs orders measure (a :: first) second
    | .eq => (some a, some b) :: pairs orders measure first second

/-- A pair of names that is to be compared, in the directories above, the nearest first. -/
structure Errand where
  names : Option String × Option String
  above : List (Party × Party) := []

/-- The file of a name. -/
def find (orders : Orders) (disk : Disk) (stand : Standpoint) (input : Option OpenFile)
    (isTop : Bool) (name : String) : Except SystemFault Party :=
  if isTop ∧ name = "-" then
    match input with
    | none => .error .badDescriptor
    | some opened =>
      let number? := match opened.channel with
        | .file number | .directory number => some number
        | _ => none
      .ok { name, isInput := true
            file? := number?.bind fun number => (disk.find? number).map (number, ·) }
  else (disk.inspect stand.directory name orders.followsLinks).map fun file => { name, file? := some file }

/-- What is to be done about a pair of files. -/
inductive Task where
  /-- Texts are said, and that is all. -/
  | told (text : String) (status : Nat)
  | refused (complaints : List String)
  | hopeless (complaint : String)
  /-- The pairs in two directories are to be compared. -/
  | inside (above : List (Party × Party)) (names : List (Option String × Option String))
  /-- The texts of two files are to be compared. -/
  | texts (first second : Party) (isInner : Bool)

/-- What is said of two files that cannot be compared. -/
def unlike (orders : Orders) (first second : Party) : Task :=
  let (title0, title1) := orders.titles first second
  .told ("File " ++ title0 ++ " is a " ++ first.kind ++ " while file " ++ title1 ++ " is a " ++
    second.kind ++ "\n") 1

/-- Looks into two directories. -/
def lookInto (orders : Orders) (disk : Disk) (above : List (Party × Party)) (first second : Party) :
    Task :=
  let loops (party : Party) (other : Party × Party → Party) : Bool :=
    party.isAbsent || above.any fun pair => (other pair).isSame party
  if loops first (·.1) ∧ loops second (·.2) then
    .refused [(if first.isAbsent then second else first).name ++ ": recursive directory loop"]
  else
    let isTop := above.isEmpty
    let names0 := orders.namesIn disk first isTop
    let names1 := orders.namesIn disk second isTop
    .inside ((first, second) :: above) (orders.pairs (names0.length + names1.length + 1) names0 names1)

/-- What is told of a pair, together with that it is the same if that is wanted. -/
def withSame (orders : Orders) (first second : Party) (text : String) (status : Nat) : String :=
  if status = 0 ∧ orders.tellsSame ∧ !first.isDirectory then
    let (title0, title1) := orders.titles first second
    text ++ "Files " ++ title0 ++ " and " ++ title1 ++ " are identical\n"
  else text

/-- What is to be done about two files that were found. -/
def taskOf (orders : Orders) (disk : Disk) (above : List (Party × Party)) (first second : Party) :
    Task :=
  let isTop := above.isEmpty
  let target? (party : Party) : Option String :=
    match party.file? with
    | some (_, { body := .link target, .. }) => some target
    | _ => none
  let told (text : String) (status : Nat) : Task :=
    .told (orders.withSame first second text status) status
  if (first.isAbsent ∧ second.isAbsent) ∨ (first.isSame second ∧ orders.passesOver) then told "" 0
  else if first.isDirectory ∧ second.isDirectory then
    if orders.showing.style = .formats then .hopeless "-D option not supported with directories"
    else if !isTop ∧ !orders.isRecursive then
      told ("Common subdirectories: " ++ first.name ++ " and " ++ second.name ++ "\n") 0
    else orders.lookInto disk above first second
  else if first.isDirectory ∨ second.isDirectory ∨
      (!isTop ∧ !(first.isStored ∧ second.isStored)) then
    if first.isAbsent ∨ second.isAbsent then
      let directory := match above with
        | pair :: _ => (if first.isAbsent then pair.2 else pair.1).name
        | [] => ""
      told ("Only in " ++ directory ++ ": " ++ (first.name.splitOn "/").getLastD "" ++ "\n") 1
    else orders.unlike first second
  else
    match target? first, target? second with
    | some target0, some target1 =>
      if target0 = target1 then told "" 0
      else told ("Symbolic links " ++ first.name ++ " and " ++ second.name ++ " differ\n") 1
    | none, none => .texts first second (!isTop)
    | _, _ => orders.unlike first second

/-- A directory as the file in it that has the name of another file. -/
def entryLike (orders : Orders) (disk : Disk) (stand : Standpoint) (directory other : Party) :
    Except Task Party := do
  let name := (other.name.splitOn "/").getLastD ""
  let names := match directory.file? with
    | some (number, _) => disk.list number
    | none => []
  let found := if names.contains name then name
    else (names.find? fun entry => orders.nameKey entry == orders.nameKey name).getD name
  let path := innerPath directory.name found
  if other.name = "-" then throw (.hopeless "cannot compare '-' to a directory")
  match orders.find disk stand none false path with
  | .ok party => return party
  | .error fault => throw (.refused [path ++ ": " ++ fault.message])

/-- Two files, of which those that count as empty are absent; or what is wrong with them. -/
def partiesOf (orders : Orders) (isTop : Bool) (first second : Option (Except SystemFault Party)) :
    Option (Except SystemFault Party) × Option (Except SystemFault Party) :=
  let settle (fills : Bool) (own other : Option (Except SystemFault Party)) :
      Option (Except SystemFault Party) :=
    match own, other with
    | some (.ok party), _ => if fills ∧ party.isPlaceholder then none else own
    | some (.error fault), some (.ok _) =>
      if fills ∧ isTop ∧ (fault = .missing ∨ fault = .badDescriptor) then none else own
    | _, _ => own
  let first := settle orders.fillsFirst first second
  (first, settle orders.fillsSecond second first)

/-- What is to be done about a pair of names. -/
def taskFor (orders : Orders) (disk : Disk) (stand : Standpoint) (input : Option OpenFile)
    (errand : Errand) : Task :=
  let above := errand.above
  let isTop := above.isEmpty
  let directory (one : Party × Party → Party) : String := (above.head?.map fun pair => (one pair).name).getD ""
  let path (one : Party × Party → Party) (name : String) : String :=
    if isTop then name else innerPath (directory one) name
  let only (one : Party × Party → Party) (name : String) : Task :=
    .told ("Only in " ++ directory one ++ ": " ++ name ++ "\n") 1
  let find (one : Party × Party → Party) (name : Option String) : Option (Except SystemFault Party) :=
    name.map fun name => orders.find disk stand input isTop (path one name)
  match errand.names with
  | (none, none) => .told "" 0
  | (name0, name1) =>
    if name0.isNone ∧ !orders.fillsFirst then only (·.2) (name1.getD "")
    else if name1.isNone ∧ !orders.fillsSecond then only (·.1) (name0.getD "")
    else
      let path0 := path (·.1) ((name0 <|> name1).getD "")
      let path1 := path (·.2) ((name1 <|> name0).getD "")
      let blame (path : String) (found : Option (Except SystemFault Party)) : List String :=
        match found with
        | some (.error fault) => [path ++ ": " ++ fault.message]
        | _ => []
      let (found0, found1) := orders.partiesOf isTop (find (·.1) name0) (find (·.2) name1)
      let complaints := blame path0 found0 ++ blame path1 found1
      if !complaints.isEmpty then .refused complaints
      else
        let present (found : Option (Except SystemFault Party)) : Option Party :=
          found.bind Except.toOption
        let party (path : String) (own other : Option Party) : Party :=
          own.getD { name := path, file? := other.bind (·.file?), isAbsent := true }
        let first := party path0 (present found0) (present found1)
        let second := party path1 (present found1) (present found0)
        let both : Except Task (Party × Party) :=
          if !isTop ∨ first.isDirectory = second.isDirectory then .ok (first, second)
          else if first.isDirectory then
            (orders.entryLike disk stand first second).map (·, second)
          else (orders.entryLike disk stand second first).map (first, ·)
        match both with
        | .ok (first, second) => orders.taskOf disk above first second
        | .error task => task

/-! ### Going through the pairs -/

/-- Opens a file, unless it is absent. -/
def opened (party : Party) (next : Except SystemFault (Option Nat) → Job) : Job :=
  if party.isAbsent then next (.ok none)
  else if party.isInput then next (.ok (some 0))
  else .open party.name { reads := true } fun opened => next (opened.map some)

/-- Reads what was opened. -/
def contentOf (descriptor : Option Nat) (next : Except SystemFault String → Job) : Job :=
  match descriptor with
  | none => next (.ok "")
  | some 0 => Job.slurp 0 next
  | some descriptor => Job.slurp descriptor fun text => .close descriptor (next text)

/-- Takes in a status. Once there is a difference, what was found out is written at once. -/
def settle (call : Invocation) (status : Nat) (progress : Progress Nat) (next : Progress Nat → Job) :
    Job :=
  let progress := { progress with state := max progress.state status }
  if status = 0 then next progress
  else
    progress.flush fun progress =>
      match progress.unwritten with
      | some fault => Job.fail call ("standard output: " ++ fault.message) 2
      | none => next progress

/-- Complains, then takes in a status. -/
def complain (call : Invocation) (status : Nat) (next : Progress Nat → Job) :
    List String → Progress Nat → Job
  | [], progress => settle call status progress next
  | text :: rest, progress => progress.warn call text (complain call status next rest)

/-- Compares the texts of two files. -/
def readBoth (orders : Orders) (now : Int) (first second : Party) (isInner : Bool)
    (progress : Progress Nat) (next : Progress Nat → Job) : Job :=
  let call := orders.showing.call
  let blame (party : Party) (fault : SystemFault) : String := party.name ++ ": " ++ fault.message
  let fail (party : Party) (fault : SystemFault) : Job :=
    complain call 2 (fun _ => .exit 2) [blame party fault] progress
  let found (text0 text1 : String) : Job :=
    let finding := orders.compareTexts isInner now (first, text0) (second, text1)
    let text := if finding.complaints.isEmpty then
        orders.withSame first second finding.text finding.status
      else finding.text
    progress.put text (complain call finding.status next finding.complaints)
  opened first fun descriptor0 =>
    let second' := if first.isSame second then { second with isAbsent := true } else second
    opened second' fun descriptor1 =>
      match descriptor0, descriptor1 with
      | .ok descriptor0, .ok descriptor1 =>
        contentOf descriptor0 fun text0 =>
          match text0 with
          | .error fault => fail first fault
          | .ok text0 =>
            contentOf descriptor1 fun text1 =>
              match text1 with
              | .error fault => fail second fault
              | .ok text1 => found text0 (if first.isSame second then text0 else text1)
      | descriptor0, descriptor1 =>
        let fault? (party : Party) (descriptor : Except SystemFault (Option Nat)) : List String :=
          match descriptor with
          | .error fault => [blame party fault]
          | .ok _ => []
        complain call 2 next (fault? first descriptor0 ++ fault? second descriptor1) progress

/-- The most pairs that are compared. -/
def mostPairs : Nat := 10000000

/-- Compares pairs one after another. -/
def run (orders : Orders) (input : Option OpenFile) :
    (measure : Nat) → List Errand → Progress Nat → Job
  | 0, _, progress => .exit progress.state
  | _ + 1, [], progress =>
    progress.flush fun progress =>
      match progress.unwritten with
      | some fault => Job.fail orders.showing.call ("standard output: " ++ fault.message) 2
      | none => .exit progress.state
  | measure + 1, errand :: rest, progress =>
    let call := orders.showing.call
    let goOn (progress : Progress Nat) : Job := run orders input measure rest progress
    .disk fun disk stand =>
      (disk, match orders.taskFor disk stand input errand with
        | .told text status => progress.put text (settle call status · goOn)
        | .refused complaints => complain call 2 goOn complaints progress
        | .hopeless complaint => progress.warn call complaint fun _ => .exit 2
        | .inside above names =>
          run orders input measure (names.map (⟨·, above⟩) ++ rest) progress
        | .texts first second isInner =>
          orders.readBoth stand.moment first second isInner progress goOn)

end Orders

/-- The patterns in a file, one in a line; blanks at the ends of lines do not count. -/
def patternsIn (text : String) : List String :=
  ((linesOf text).map fun line =>
    String.ofList (line.toList.reverse.dropWhile Arithmetic.isSpace).reverse).filter (· != "")

/-- Reads patterns of names that are left out. -/
def readPatterns (call : Invocation) (next : List String → Job) (done : List String) :
    List String → Job
  | [] => next done
  | name :: rest =>
    Job.readInput name fun text =>
      match text with
      | .ok text => readPatterns call next (done ++ patternsIn text) rest
      | .error fault => Job.fail call (name ++ ": " ++ fault.message) 2

/-- The pairs of names that are compared. -/
def errands (call : Invocation) (choices : Choices) (optionWords operands : List String) :
    Except Job (List Orders.Errand) :=
  let pair (first second : String) : Orders.Errand := { names := (some first, some second) }
  match choices.fromFile, choices.toFile, operands with
  | some _, some _, _ => .error (Job.fail call "--from-file and --to-file both specified" 2)
  | some name, none, operands => .ok (operands.map (pair name))
  | none, some name, operands => .ok (operands.map (pair · name))
  | none, none, [first, second] => .ok [pair first second]
  | none, none, _ :: _ :: extra :: _ => Choices.refuse call ("extra operand '" ++ extra ++ "'")
  | none, none, operands =>
    let last := (call.name :: optionWords ++ operands).getLastD ""
    Choices.refuse call ("missing operand after '" ++ last ++ "'")

end Difference

/-- The program `diff`. -/
def diff : Utility := fun call =>
  let accepted := Difference.Choices.accepted
  let choose (arguments : Arguments) : Except Job Difference.Choices :=
    arguments.options.foldlM (Difference.Choices.add call) {}
  accepted.read call 2 (fun arguments =>
    let optionWords := accepted.optionWords call
    let job : Except Job Job := do
      let choices ← choose arguments
      let errands ← Difference.errands call choices optionWords arguments.operands
      let orders := choices.orders call arguments
      let orders := { orders with
        heading := String.intercalate " " ("diff" :: optionWords.map call.quoteWord) }
      return Difference.readPatterns call (fun excluded =>
        .look 0 fun input =>
          { orders with excluded := orders.excluded ++ excluded }.run input
            Difference.Orders.mostPairs errands { state := 0 }) [] (arguments.values 'X')
    match job with
    | .ok job | .error job => job)
    fun arguments job =>
      match choose arguments with
      | .ok _ => job
      | .error refusal => refusal

end Utility

end ArtifactLens.Shell
