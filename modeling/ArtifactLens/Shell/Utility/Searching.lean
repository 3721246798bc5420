import ArtifactLens.Shell.Regex.Reading
import ArtifactLens.Shell.Utility.Filing
import ArtifactLens.Shell.Utility.Searching.Showing

/-!
# Searching lines

The program `grep` and its two variants: inputs are searched one after another, and directories
with all that is in them if that is asked for.
-/

namespace ArtifactLens.Shell

namespace Utility

namespace Searching

/-- What is told of inputs. -/
inductive Report where
  | lines
  | counts
  | names
  | namesWithout
  | nothing
  deriving DecidableEq, Repr

/-- What is done about directories. -/
inductive DirectoryManner where
  | read
  | recurse
  | skip
  deriving DecidableEq, Repr

/-- The orders of a search. -/
structure Orders where
  call : Invocation
  search : Search
  report : Report
  /-- Names stand in front of lines, or only those of files in directories. -/
  named : Bool
  namedBelow : Bool
  label : String
  silent : Bool
  directories : DirectoryManner
  /-- Links below directories are followed. -/
  follows : Bool
  included : List String
  excluded : List String
  excludedDirectories : List String
  /-- The directory at hand is not spelled in front of names. -/
  omitsDot : Bool

/-- How far a search has come. -/
structure Progress where
  found : Bool := false
  failed : Bool := false
  used : Bool := false

/-- A name is like a pattern. -/
def isLike (name pattern : String) : Bool :=
  Pattern.isMatch (Pattern.ofChars (pattern.toList.map fun c => ⟨c, false⟩)) name.toList

/-- A path, or what follows a slash in it, is like one of some patterns. -/
def isLikeAny (path : String) (patterns : List String) : Bool :=
  let pieces := path.splitOn "/"
  (List.range pieces.length).any fun n =>
    patterns.any (isLike (String.intercalate "/" (pieces.drop n)))

namespace Orders

/-- A file is left out because of its name. -/
def skipsFile (orders : Orders) (path : String) : Bool :=
  isLikeAny path orders.excluded ||
    (!orders.included.isEmpty && !isLikeAny path orders.included)

/-- Complains about an input. -/
def refuse (orders : Orders) (progress : Progress) (title : String) (fault : SystemFault)
    (next : Progress → Job) : Job :=
  let go : Job := next { progress with failed := true }
  if orders.silent then go else Job.warn orders.call (title ++ ": " ++ fault.message) go

/-- Tells what was found in an input. -/
def tell (orders : Orders) (title : String) (named : Bool) (text : String) (progress : Progress)
    (next : Progress → Nat → Job) : Job :=
  let search := orders.search
  let call := orders.call
  let isBinary := search.lineEnd == '\n' && search.binary != .asText && text.contains '\x00'
  if isBinary ∧ search.binary = .noMatch then
    match orders.report with
    | .counts =>
      Job.say call (search.nameHeading (if named then some title else none) ":" ++ "0\n")
        (next progress 0)
    | .namesWithout =>
      Job.say call (search.paint "35" title ++ String.singleton (search.nameEnd.getD '\n'))
        (next progress 0)
    | _ => next progress 0
  else
    let text := if isBinary then text.map fun c => if c = '\x00' then '\n' else c else text
    let pieces := text.splitOn (String.singleton search.lineEnd)
    let lines := if pieces.getLast? = some "" then pieces.dropLast else pieces
    let selected (line : String) : Bool := search.selects (search.subject call line)
    let search := if isBinary ∧ orders.report = .lines then { search with most := some 1 } else search
    let walk := search.walk selected 1 0 0 [] {} lines
    let isFound := walk.count > 0
    let progress := { progress with found := progress.found || isFound }
    let listed := search.paint "35" title ++ String.singleton (search.nameEnd.getD '\n')
    match orders.report with
    | .nothing => next progress walk.finish
    | .names => if isFound then Job.say call listed (next progress walk.finish)
      else next progress walk.finish
    | .namesWithout => if isFound then next progress walk.finish
      else Job.say call listed (next progress walk.finish)
    | .counts =>
      let heading := search.nameHeading (if named then some title else none) ":"
      Job.say call (heading ++ toString walk.count ++ "\n") (next progress walk.finish)
    | .lines =>
      let title? := if named then some title else none
      let output := if isBinary then { garbled := isFound : Search.Output }
        else search.render call title? { used := progress.used } walk.shown.reverse
      let go : Job :=
        let go : Job := next { progress with used := output.used } walk.finish
        if output.garbled then Job.warn call (title ++ ": binary file matches") go else go
      if output.text = "" then go else Job.say call output.text go

/-- The rest of an input cannot change what is told of it. -/
def isSettled (orders : Orders) (text : String) : Bool :=
  let search := orders.search
  let wanted := match orders.report with
    | .nothing | .names | .namesWithout => some 1
    | .lines => if (search.after.getD 0) = 0 then search.most else none
    | .counts => search.most
  match wanted with
  | none => false
  | some wanted =>
    let lines := (text.splitOn (String.singleton search.lineEnd)).dropLast
    (lines.filter fun line => search.selects (search.subject orders.call line)).length ≥ wanted

/-- Searches the input. -/
def searchInput (orders : Orders) (progress : Progress) (next : Progress → Job) : Job :=
  .gather 0 orders.isSettled "" fun text =>
    match text with
    | .error fault => orders.refuse progress orders.label fault next
    | .ok text =>
      orders.tell orders.label orders.named text progress fun progress finish =>
        let isLimited := orders.report != .nothing && orders.search.most.isSome && finish > 0
        Job.giveBack 0 (if isLimited then text.length - finish else 0) (next progress)

/-- Something that is to be searched. -/
inductive Errand where
  /-- A name that was given. -/
  | named (path : String)
  /-- A path below a directory that was given. -/
  | below (path : String)

/-- Searches inputs one after another. -/
def run (orders : Orders) : (measure : Nat) → List Errand → Progress → Job
  | 0, _, progress => .exit (if progress.failed then 2 else 1)
  | _ + 1, [], progress =>
    .exit (if progress.failed ∧ !(orders.report = .nothing ∧ progress.found) then 2
      else if progress.found then 0 else 1)
  | measure + 1, errand :: rest, progress =>
    let goOn (progress : Progress) : Job :=
      if orders.report = .nothing ∧ progress.found then .exit 0
      else run orders measure rest progress
    match errand with
    | .named "-" => searchInput orders progress goOn
    | errand =>
      let (path, isGiven) := match errand with
        | .named path => (path, true)
        | .below path => (path, false)
      let title := if isGiven ∨ !path.startsWith "./" ∨ !orders.omitsDot then path
        else (path.drop 2).toString
      .disk fun disk stand =>
        match disk.inspect stand.directory path with
        | .error fault => (disk, orders.refuse progress title fault goOn)
        | .ok (number, file) =>
          let named := if isGiven then orders.named else orders.namedBelow
          if file.isDirectory then
            match orders.directories with
            | .skip => (disk, goOn progress)
            | .read => (disk, orders.refuse progress title .isDirectory fun progress =>
                orders.tell title named "" progress fun progress _ => goOn progress)
            | .recurse =>
              let inner := (disk.list number).filterMap fun name =>
                let inner := pathBelow path name
                match disk.inspect number name orders.follows with
                | .ok (_, { body := .directory .., .. }) =>
                  if isLikeAny name orders.excludedDirectories then none else some (Errand.below inner)
                | .ok (_, { body := .octets _, .. }) =>
                  if orders.skipsFile name then none else some (.below inner)
                | _ => none
              let isLeftOut := isGiven && !orders.omitsDot &&
                isLikeAny path orders.excludedDirectories
              (disk, run orders measure ((if isLeftOut then [] else inner) ++ rest) progress)
          else if isGiven ∧ orders.skipsFile path then (disk, goOn progress)
          else
            (disk, Job.readInput path fun text =>
              match text with
              | .ok text => orders.tell title named text progress fun progress _ => goOn progress
              | .error fault => orders.refuse progress title fault goOn)

end Orders

/-- The options of `grep`. -/
def options : Accepted :=
  { letters := "EFGPXe:f:ivwxcLlm:oqshHnbrRA:B:C:aIzZTUuyd:D:κγ:ηλ:ιβ:ν:φ:ψ:χ:δ"
    attached := "κ"
    numbers := true
    package := "GNU grep) 3.8"
    names := [("basic-regexp", 'G'), ("extended-regexp", 'E'), ("fixed-regexp", 'F'),
      ("fixed-strings", 'F'), ("perl-regexp", 'P'), ("after-context", 'A'),
      ("before-context", 'B'), ("binary-files", 'β'), ("line-buffered", 'δ'), ("byte-offset", 'b'),
      ("context", 'C'), ("color", 'κ'), ("colour", 'κ'), ("count", 'c'), ("devices", 'D'),
      ("directories", 'd'), ("exclude", 'φ'), ("exclude-from", 'ψ'), ("exclude-dir", 'χ'),
      ("file", 'f'), ("files-with-matches", 'l'), ("files-without-match", 'L'),
      ("group-separator", 'γ'), ("include", 'ν'), ("ignore-case", 'i'), ("no-ignore-case", 'ι'),
      ("initial-tab", 'T'), ("label", 'λ'), ("line-number", 'n'), ("line-regexp", 'x'),
      ("max-count", 'm'), ("no-filename", 'h'), ("no-group-separator", 'η'), ("no-messages", 's'),
      ("null", 'Z'), ("null-data", 'z'), ("only-matching", 'o'), ("quiet", 'q'),
      ("recursive", 'r'), ("dereference-recursive", 'R'), ("regexp", 'e'), ("invert-match", 'v'),
      ("silent", 'q'), ("text", 'a'), ("binary", 'U'), ("unix-byte-offsets", 'u'),
      ("with-filename", 'H'), ("word-regexp", 'w')] }

/-- The usage that is told where the use is wrong. -/
def usage (call : Invocation) : Job :=
  Job.complain ("Usage: " ++ call.name ++ " [OPTION]... PATTERNS [FILE]...\nTry '" ++ call.name ++
    " --help' for more information.\n") (.exit 2)

/-- Patterns with where they come from: a file and a line of it, or the command line. -/
abbrev Patterns := List (String × Option (String × Nat))

/-- The expression for patterns, any of which may match; complaints and warnings come with it. -/
def regexOf (call : Invocation) (kind : Char) (patterns : Patterns) :
    Except (List String) (Regex × List String) :=
  let style := if kind = 'G' then Regex.Style.searchBasic else Regex.Style.searchExtended
  let read := patterns.map fun (pattern, origin) =>
    let text := call.glyphs pattern.toList
    let front := match origin with
      | some (file, line) => file ++ ":" ++ toString line ++ ": "
      | none => ""
    if kind = 'F' then Except.ok (Regex.literal text, [], false)
    else
      match Regex.parse style text with
      | .ok reading =>
        .ok (reading.regex, reading.warnings.map ("warning: " ++ ·), reading.looksNamed)
      | .error fault => .error (front ++ fault.message)
  let faults := read.filterMap fun entry =>
    match entry with
    | .error text => some text
    | .ok _ => none
  if !faults.isEmpty then .error faults
  else
    let named := read.any fun entry =>
      match entry with
      | .ok (_, _, looksNamed) => looksNamed
      | .error _ => false
    if named then .error [Regex.namedSetComplaint]
    else
      let good := read.filterMap Except.toOption
      let regex : Regex := match good.map (·.1) with
        | [] => .oneOf false []
        | first :: rest => rest.foldl Regex.either first
      .ok (regex, good.flatMap (·.2.1))

/-- A number of lines of context. -/
def context? (text : String) : Option Nat :=
  let digits := if text.startsWith "+" then (text.drop 1).toString else text
  if digits ≠ "" ∧ digits.toList.all Char.isDigit then some (Digit.numeral digits.toList) else none

/-- The orders that options give; none if their values are refused. -/
def ordersOf (call : Invocation) (arguments : Arguments) (names : List String) :
    Except Job Orders := do
  let complain {α : Type} (text : String) : Except Job α := .error (Job.fail call text 2)
  for (letter, value) in arguments.options do
    match letter with
    | 'A' | 'B' | 'C' =>
      if (context? value).isNone then complain (value ++ ": invalid context length argument")
    | 'm' =>
      let digits := if value.startsWith "-" then (value.drop 1).toString else value
      if (context? digits).isNone then complain "invalid max count"
    | 'd' =>
      if !(["read", "recurse", "skip"].contains value) then
        throw <| Job.complain (call.name ++ ": invalid argument " ++ call.quote value ++ " for " ++
          call.quote "--directories" ++ "\nValid arguments are:\n" ++
          String.join (["read", "recurse", "skip"].map fun word => "  - " ++ call.quote word ++ "\n"))
          (usage call)
    | 'D' => if !(["read", "skip"].contains value) then complain "unknown devices method"
    | 'β' =>
      if !(["binary", "text", "without-match"].contains value) then
        complain "unknown binary-files type"
    | _ => pure ()
  let has := arguments.has
  let number (letter : Char) : Option Nat := (arguments.value? letter).bind context?
  -- A number alone is context too; its letter may have a value or none.
  let numbered := (arguments.options.filter fun option => option.1 == 'n' && option.2 != "").map (·.2)
  let context := number 'C' <|> (numbered.getLast?).bind context?
  let isRecursive := has 'r' || has 'R' || arguments.value? 'd' == some "recurse"
  let below : Bool := match arguments.last? ['h', 'H'] with
    | some (letter, _) => letter == 'H'
    | none => true
  let named : Bool := match arguments.last? ['h', 'H'] with
    | some (letter, _) => letter == 'H'
    | none => names.length > 1
  let report : Report :=
    if has 'q' then .nothing
    else
      match arguments.last? ['l', 'L'] with
      | some ('l', _) => .names
      | some _ => .namesWithout
      | none => if has 'c' then .counts else .lines
  let binary : BinaryManner := match arguments.last? ['a', 'I', 'β'] with
    | some ('a', _) | some ('β', "text") => .asText
    | some ('I', _) | some ('β', "without-match") => .noMatch
    | _ => .tell
  let coloured : Bool := match arguments.value? 'κ' with
    | some word => ["always", "yes", "force"].contains word
    | none => false
  let separator : Option String := match arguments.last? ['γ', 'η'] with
    | some ('γ', text) => some text
    | some _ => none
    | none => some "--"
  let isCased : Bool := match arguments.last? ['i', 'y', 'ι'] with
    | some ('ι', _) | none => true
    | _ => false
  let search : Search :=
    { regex := .empty, ignoresCase := !isCased, inverted := has 'v', wholeWords := has 'w'
      wholeLines := has 'x', onlyMatches := has 'o'
      numbers := arguments.options.any fun option => option.1 == 'n' && option.2 == ""
      places := has 'b', aligned := has 'T', nameEnd := if has 'Z' then some '\x00' else none
      before := if report = .lines then number 'B' <|> context else none
      after := if report = .lines then number 'A' <|> context else none
      most := number 'm', separator, coloured, lineEnd := if has 'z' then '\x00' else '\n', binary }
  return { call, search, report, named, namedBelow := below
           label := (arguments.value? 'λ').getD "(standard input)", silent := has 's'
           directories := if isRecursive then .recurse
             else if arguments.value? 'd' == some "skip" then .skip else .read
           follows := has 'R', included := arguments.values 'ν', excluded := arguments.values 'φ'
           excludedDirectories := arguments.values 'χ', omitsDot := names.isEmpty }

/-- Searches as options say. -/
def searchWith (call : Invocation) (kind : Char) (arguments : Arguments) (patterns : Patterns)
    (names : List String) : Job :=
  match ordersOf call arguments names with
  | .error refusal => refusal
  | .ok orders =>
    match regexOf call kind patterns with
    | .error faults => faults.foldr (Job.warn call) (.exit 2)
    | .ok (regex, warnings) =>
      let orders := { orders with search.regex := regex }
      let names := if !names.isEmpty then names
        else if orders.directories = .recurse then ["."] else ["-"]
      let isEmpty := orders.search.inverted && !orders.search.wholeLines &&
        !orders.search.wholeWords && patterns.map (·.1) == [""]
      let isVain := (orders.search.most == some 0 || isEmpty) && orders.report != .namesWithout
      let go : Job := if isVain then .exit 1
        else orders.run 10000000 (names.map .named) {}
      warnings.foldr (Job.warn call) go

end Searching

/-- The program `grep`, with the notation that it has without options. -/
def grepAs (kind : Char) : Utility := fun call =>
  match Searching.options.readFrom {} (call.args.length + 1) call.args with
  | (_, some misuse) => Job.warn call misuse.message (Searching.usage call)
  | (done, none) =>
    let arguments : Arguments := ⟨done.options.reverse, done.operands.reverse⟩
    let kinds := ((arguments.options.map (·.1)).filter ['E', 'F', 'G', 'P'].contains).eraseDups
    let kinds := if kind = 'G' then kinds else (kind :: kinds).eraseDups
    let kind := kinds.headD 'G'
    let given : Searching.Patterns := (arguments.values 'e').flatMap fun text =>
      (text.splitOn "\n").map fun pattern => (pattern, none)
    let refuseFile (name : String) (fault : SystemFault) : Job :=
      Job.fail call (name ++ ": " ++ fault.message) 2
    let rec readPatterns (done : Searching.Patterns) (next : Searching.Patterns → Job) :
        List String → Job
      | [] => next done
      | name :: rest =>
        Job.readInput name fun text =>
          match text with
          | .error fault => refuseFile name fault
          | .ok text =>
            let lines := (linesOf text).zipIdx.map fun (line, i) => (line, some (name, i + 1))
            readPatterns (done ++ lines) next rest
    if kinds.length > 1 then Job.fail call "conflicting matchers specified" 2
    else if arguments.has 'f' then
      readPatterns given (fun patterns =>
        Searching.searchWith call kind arguments patterns arguments.operands) (arguments.values 'f')
    else if !given.isEmpty then
      Searching.searchWith call kind arguments given arguments.operands
    else
      match arguments.operands with
      | [] => Searching.usage call
      | text :: names =>
        Searching.searchWith call kind arguments
          ((text.splitOn "\n").map fun pattern => (pattern, none)) names

end Utility

end ArtifactLens.Shell
