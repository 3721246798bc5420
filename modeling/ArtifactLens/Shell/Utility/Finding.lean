import ArtifactLens.Shell.Utility.Finding.Expression

/-!
# Finding files

The program `find`: it goes through directories and tries a term on all that it comes across
(`Search.attempt`). What the term does is done at once, so that later steps find the disk as
earlier ones left it; what is put out is held back until a command runs.
-/

namespace ArtifactLens.Shell

namespace Utility

namespace Finding

/-- A search. -/
structure Search where
  call : Invocation
  orders : Orders
  term : FindTerm
  /-- The descriptors of the files that are written. -/
  targets : List (String × Nat)

/-- How far a search has come. -/
structure Progress where
  /-- What was put out but not yet written, the newest piece first. -/
  said : List String := []
  failed : Bool := false
  /-- Nothing below the file at hand is looked at. -/
  pruned : Bool := false
  /-- The files for commands that are run for many at once, the newest first. -/
  gathered : List (Calling × List String) := []

/-- What is still to be looked at. -/
inductive Errand where
  /-- A starting point. -/
  | start (path : String)
  /-- A name in a directory; `outer` are the directories above with their paths. -/
  | entry (start path : String) (depth : Nat) (directory : FileNumber) (name : String)
      (outer : List (FileNumber × String))
  /-- A directory once all in it was looked at. -/
  | leave (found : Found)

namespace Search

/-- Writes what was held back. -/
def flush (search : Search) (progress : Progress) (next : Progress → Job) : Job :=
  if progress.said.isEmpty then next progress
  else
    .write 1 (String.join progress.said.reverse) fun fault =>
      match fault with
      | none => next { progress with said := [] }
      | some fault =>
        Job.fail search.call ("'standard output': " ++ fault.message)

/-- Complains, which is a failure. -/
def complain (search : Search) (progress : Progress) (text : String) (next : Progress → Job) : Job :=
  Job.warn search.call text (next { progress with failed := true })

/-- Puts out a text, to a file if one is named. -/
def put (search : Search) (progress : Progress) (target : Option String) (text : String)
    (next : Progress → Job) : Job :=
  match target.bind fun name => (search.targets.find? (·.1 == name)).map (·.2) with
  | some descriptor => .write descriptor text fun _ => next progress
  | none =>
    let progress := { progress with said := text :: progress.said }
    if progress.said.length ≥ 512 then search.flush progress next else next progress

/-- Runs a command and waits for its end: whether it ended well. -/
def run (search : Search) (calling : Calling) (directory : String) (words : List String)
    (progress : Progress) (next : Bool → Progress → Job) : Job :=
  let name := words.headD ""
  let call := search.call
  let become : Job := .become (if name.contains '/' then name else "") words call.environment
    fun fault => Job.fail call (call.quote name ++ ": " ++ fault.message)
  let quiet : Job := if calling.asks then
      .close 0 (.open "/dev/null" { reads := true } fun _ => become)
    else become
  let child : Job := if calling.inPlace then .enter directory fun _ => quiet else quiet
  search.flush progress fun progress =>
    .spawn child false fun process =>
      .await process none fun ending =>
        let isFine : Bool := match ending with
          | some (.exit 0) => true
          | _ => false
        match ending with
        | some (.signal number) =>
          Job.warn call (call.quote name ++ " terminated by signal " ++ toString number)
            (next false progress)
        | _ => next isFine progress

/-- The directory of a path, and the path from there. -/
def splitPath (path : String) : String × String :=
  if path.toList.all (· == '/') then ("/", "/")
  else
    let name := nameWithSlashes path
    let front := (path.take (path.length - name.length)).toString
    (if front = "" then "." else front, "./" ++ name)

/-- A word with a path in place of each pair of braces. -/
def withPath (path word : String) : String :=
  String.intercalate path (word.splitOn "\x7b\x7d")

/-- Runs the commands that were put off. -/
def runGathered (search : Search) (progress : Progress) (next : Progress → Job) :
    List (Calling × List String) → Job
  | [] => next progress
  | (calling, paths) :: rest =>
    let split := paths.reverse.map splitPath
    let directory := (split.head?.map (·.1)).getD "."
    let shown := if calling.inPlace then split.map (·.2) else paths.reverse
    search.run calling directory (calling.words ++ shown) progress fun isFine progress =>
      search.runGathered { progress with failed := progress.failed || !isFine } next rest

/-- Ends the search. -/
def finish (search : Search) (progress : Progress) : Job :=
  search.runGathered { progress with gathered := [] } (fun progress =>
    search.flush progress fun progress => .exit (if progress.failed then 1 else 0))
    progress.gathered.reverse

/-- Puts a file off for a command. -/
def gather (progress : Progress) (calling : Calling) (path : String) : Progress :=
  let fits (entry : Calling × List String) : Bool :=
    entry.1.index == calling.index &&
      (!calling.inPlace || (entry.2.head?.map fun path => (splitPath path).1) ==
        some (splitPath path).1)
  let gathered := if progress.gathered.any fits then
      progress.gathered.map fun entry => if fits entry then (entry.1, path :: entry.2) else entry
    else (calling, [path]) :: progress.gathered
  { progress with gathered }

/-- Carries out an act on a file: whether it holds. -/
def perform (search : Search) (found : Found) (act : Act) (progress : Progress)
    (next : Bool → Progress → Job) : Job :=
  match act with
  | .print ending target =>
    search.put progress target (found.path.push ending) (next true)
  | .format pieces target =>
    .disk fun disk stand =>
      (disk, search.put progress target
        (fillFormat search.call disk stand.directory found pieces) (next true))
  | .list target =>
    .disk fun disk stand =>
      (disk, search.put progress target (listLine search.call disk stand.moment found) (next true))
  | .delete =>
    if found.path = "." then next true progress
    else
      .disk fun disk stand =>
        let done := if found.file.isDirectory then disk.removeDirectory stand found.path
          else disk.removeFile stand found.path
        match done with
        | .ok disk => (disk, next true progress)
        | .error fault =>
          (disk, search.complain progress ("cannot delete " ++ search.call.quote found.path ++ ": " ++
            fault.message) (next false))
  | .prune => next true { progress with pruned := true }
  | .quit => search.finish progress
  | .call calling =>
    if calling.together then next true (gather progress calling found.path)
    else
      let (directory, name) := splitPath found.path
      let shown := if calling.inPlace then name else found.path
      let go (progress : Progress) : Job :=
        search.run calling directory (calling.words.map (withPath shown)) progress next
      if calling.asks then
        search.flush progress fun progress =>
          Job.complain ("< " ++ calling.words.headD "" ++ " ... " ++ found.path ++ " > ? ") <|
            .gather 0 (·.contains '\n') "" fun answer =>
              match answer with
              | .ok text =>
                if text.startsWith "y" || text.startsWith "Y" then go progress
                else next false progress
              | .error _ => next false progress
      else go progress

/-- Tries a term on a file: whether it holds. -/
def attempt (search : Search) (found : Found) :
    FindTerm → Progress → (Bool → Progress → Job) → Job
  | .condition condition, progress, next =>
    .disk fun disk stand =>
      (disk, next (condition.holds disk search.orders stand.directory found) progress)
  | .act act, progress, next => search.perform found act progress next
  | .negation term, progress, next =>
    search.attempt found term progress fun holds progress => next (!holds) progress
  | .both first second, progress, next =>
    search.attempt found first progress fun holds progress =>
      if holds then search.attempt found second progress next else next false progress
  | .either first second, progress, next =>
    search.attempt found first progress fun holds progress =>
      if holds then next true progress else search.attempt found second progress next
  | .next first second, progress, next =>
    search.attempt found first progress fun _ progress =>
      search.attempt found second progress next

/-- Tries the term on what was found, unless it lies too high. -/
def visit (search : Search) (found : Found) (progress : Progress) (next : Progress → Job) : Job :=
  if found.depth < search.orders.least then next { progress with pruned := false }
  else
    search.attempt found search.term { progress with pruned := false } fun _ progress =>
      next progress

/-- The errands for what is in a directory. -/
def errandsIn (disk : Disk) (found : Found) (outer : List (FileNumber × String)) : List Errand :=
  (disk.list found.number).map fun name =>
    .entry found.start (pathBelow found.path name) (found.depth + 1) found.number name
      ((found.number, found.path) :: outer)

/-- Looks at what was found; `next` learns what is to be looked at below it. -/
def explore (search : Search) (found : Found) (outer : List (FileNumber × String))
    (progress : Progress) (next : List Errand → Progress → Job) : Job :=
  let opens := found.file.isDirectory && search.orders.most.all (found.depth < ·)
  if search.orders.depthFirst then
    .disk fun disk _ =>
      (disk, next ((if opens then errandsIn disk found outer else []) ++ [.leave found]) progress)
  else
    search.visit found progress fun progress =>
      if !opens || progress.pruned then next [] progress
      else
        .disk fun disk stand =>
          match disk.inspect stand.directory found.path with
          | .error fault =>
            (disk, search.complain progress (search.call.quote found.path ++ ": " ++ fault.message)
              (next []))
          | .ok _ => (disk, next (errandsIn disk found outer) progress)

/-- Does errands one after another. -/
def walk (search : Search) : (measure : Nat) → List Errand → Progress → Job
  | 0, _, progress => search.finish progress
  | _ + 1, [], progress => search.finish progress
  | measure + 1, .leave found :: rest, progress =>
    search.visit found progress (search.walk measure rest)
  | measure + 1, .start path :: rest, progress =>
    .disk fun disk stand =>
      let follows := search.orders.follows || search.orders.followsStart
      let seen := match disk.inspect stand.directory path follows with
        | .error fault => if follows then disk.inspect stand.directory path false else .error fault
        | found => found
      match seen with
      | .error fault =>
        (disk, search.complain progress (search.call.quote path ++ ": " ++ fault.message)
          (search.walk measure rest))
      | .ok (number, file) =>
        (disk, explore search ⟨path, path, 0, number, file⟩ [] progress
          fun more progress => search.walk measure (more ++ rest) progress)
  | measure + 1, .entry start path depth directory name outer :: rest, progress =>
    .disk fun disk _ =>
      let seen := if search.orders.follows then
          match disk.inspect directory name with
          | .error _ => disk.inspect directory name false
          | found => found
        else disk.inspect directory name false
      match seen with
      | .error fault =>
        (disk, search.complain progress (search.call.quote path ++ ": " ++ fault.message)
          (search.walk measure rest))
      | .ok (number, file) =>
        match if file.isDirectory then outer.find? (·.1 == number) else none with
        | some (_, above) =>
          (disk, search.complain progress ("File system loop detected; " ++
            search.call.quote path ++ " is part of the same file system loop as " ++
            search.call.quote above ++ ".") (search.walk measure rest))
        | none =>
          (disk, explore search ⟨path, start, depth, number, file⟩ outer progress
            fun more progress => search.walk measure (more ++ rest) progress)

end Search

/-- The most steps that a search takes. -/
def patience : Nat := 10000000

/-- Opens the files that are written. -/
def openTargets (call : Invocation) (next : List (String × Nat) → Job)
    (done : List (String × Nat)) : List String → Job
  | [] => next done
  | name :: rest =>
    if done.any (·.1 == name) then openTargets call next done rest
    else
      .open name { writes := true, creates := true, truncates := true } fun opened =>
        match opened with
        | .ok descriptor => openTargets call next ((name, descriptor) :: done) rest
        | .error fault => Job.fail call (call.quote name ++ ": " ++ fault.message)

/-- Takes the options in front of the starting points. -/
def leadingOptions (orders : Orders) : List String → Except Refusal (Orders × List String)
  | "-P" :: rest => leadingOptions { orders with follows := false, followsStart := false } rest
  | "-L" :: rest => leadingOptions { orders with follows := true, followsStart := true } rest
  | "-H" :: rest => leadingOptions { orders with follows := false, followsStart := true } rest
  | "--" :: rest => .ok (orders, rest)
  | ["-D"] => .error { text := "Missing argument after the -D option.", hasHint := true }
  | "-D" :: _ :: rest => leadingOptions orders rest
  | word :: rest =>
    let level := (word.drop 2).toString
    if !word.startsWith "-O" then .ok (orders, word :: rest)
    else if level = "" then
      .error { text := "The -O option must be immediately followed by a decimal integer" }
    else if !level.toList.all Char.isDigit then
      .error { text := "Please specify a decimal number immediately after -O" }
    else leadingOptions orders rest
  | [] => .ok (orders, [])

/-- Searches from starting points as the words after them say. -/
def searchWith (call : Invocation) (orders : Orders) (args : List String) : Job :=
  let paths := args.takeWhile fun arg => !isExpressionWord true arg
  let words := args.drop paths.length
  if words.any fun word => word == "-help" || word == "--help" then
    Job.answer call ("Usage: " ++ call.name ++
      " [-H] [-L] [-P] [-Olevel] [-D debugopts] [path...] [expression]\n")
  else if words.any fun word => word == "-version" || word == "--version" then
    Job.answer call "find (GNU findutils) 4.9.0\n"
  else
    .disk fun disk stand =>
      let start : Words :=
        { call, disk, stand, rest := words, orders, origin := stand.moment - 86400 * 10 ^ 9 }
      (disk, match readExpression start with
      | .error refusal => Job.fail call refusal.text
      | .ok (term, words) =>
        let warnings := String.join (words.warnings.reverse.map fun text =>
          call.name ++ ": warning: " ++ text ++ "\n")
        let go : Job := openTargets call (fun targets =>
          let search : Search := { call, orders := words.orders, term, targets }
          search.walk patience ((if paths.isEmpty then ["."] else paths).map .start) {})
          [] words.targets
        if warnings = "" then go else Job.complain warnings go)

end Finding

/-- The program `find`. -/
def find : Utility := fun call =>
  match Finding.leadingOptions {} call.args with
  | .error refusal =>
    if refusal.hasHint then Job.misuse call refusal.text else Job.fail call refusal.text
  | .ok (orders, args) => Finding.searchWith call orders args

end Utility

end ArtifactLens.Shell
