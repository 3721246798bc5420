import ArtifactLens.Shell.Utility.Choice
import ArtifactLens.Shell.Utility.Filing
import ArtifactLens.Shell.Utility.Speaking

/-!
# Targets

Programs that copy, move and link take sources to a target, which is one name or a directory for
many. What stood under a name before may be kept beside it under another one, with a suffix or a
number.
-/

namespace ArtifactLens.Shell

namespace Utility

/-! ### Where things go -/

/-- A target: one name, or a directory. -/
inductive Aim where
  | name (path : String)
  | into (directory : String)

/-- How a target is told. -/
structure AimOrders where
  /-- The directory that an option names. -/
  directory : Option String
  /-- The last operand is a name even if it is a directory. -/
  isName : Bool
  /-- A link to a directory is no directory. -/
  follows : Bool := true

/-- Takes the sources and the target out of operands and goes on with them. -/
def aimed (call : Invocation) (orders : AimOrders) (operands : List String)
    (next : List String → Aim → Job) : Job :=
  .disk fun disk stand =>
    let isDirectory (path : String) : Except SystemFault Bool :=
      match disk.inspect stand.directory path orders.follows with
      | .ok (_, file) => .ok file.isDirectory
      | .error fault => .error fault
    (disk,
      match orders.directory, operands with
      | _, [] => Job.misuse call "missing file operand"
      | some directory, sources =>
        if orders.isName then
          Job.misuse call
            "cannot combine --target-directory (-t) and --no-target-directory (-T)"
        else
          match isDirectory directory with
          | .ok true => next sources (.into directory)
          | .ok false =>
            Job.fail call ("target directory " ++ call.quoteName directory ++ ": " ++
              SystemFault.notDirectory.message)
          | .error fault =>
            Job.fail call ("target directory " ++ call.quoteName directory ++ ": " ++ fault.message)
      | none, [source] =>
        Job.misuse call ("missing destination file operand after " ++ call.quoteName source)
      | none, [source, target] =>
        if !orders.isName ∧ (isDirectory target).toOption = some true then
          next [source] (.into target)
        else next [source] (.name target)
      | none, all =>
        if orders.isName then
          Job.misuse call ("extra operand " ++ call.quoteName (all.getD 2 ""))
        else
          let target := all.getLastD ""
          match isDirectory target with
          | .ok true => next all.dropLast (.into target)
          | .ok false =>
            Job.fail call ("target " ++ call.quoteName target ++ ": " ++
              SystemFault.notDirectory.message)
          | .error fault =>
            Job.fail call ("target " ++ call.quoteName target ++ ": " ++ fault.message))

/-! ### Names for what was there -/

/-- How what was there before is kept. -/
inductive Keeping where
  | simple
  | numbered
  /-- Numbered where numbered ones are there already. -/
  | existing
  deriving DecidableEq

/-- The words for manners of keeping, some of which are against it; an option asks for one. -/
def keepingChoice (option : String) : Choice (Option Keeping) where
  option
  words := [("none", none), ("off", none), ("simple", some .simple), ("never", some .simple),
    ("existing", some .existing), ("nil", some .existing), ("numbered", some .numbered),
    ("t", some .numbered)]

/-- The manner of keeping that options ask for: by `b`, by a suffix, or by a word for `β`. What is
wrong with the word is told if it names none. -/
def keepingAsked (call : Invocation) (arguments : Arguments) :
    Except String (Option Keeping) :=
  if arguments.has 'b' ∨ arguments.has 'S' ∨ arguments.has 'β' then
    let choose (option word : String) : Except String (Option Keeping) :=
      let choice := keepingChoice option
      match choice.meaning word with
      | .ok keeping => .ok keeping
      | .error fault => .error (choice.complaint call word fault)
    match arguments.value? 'β', (call.value? "VERSION_CONTROL").getD "" with
    | none, "" | some "", "" => .ok (some .existing)
    | none, word | some "", word => choose "$VERSION_CONTROL" word
    | some word, _ => choose "backup type" word
  else .ok none

/-- The numbers of the numbered names that are kept beside a path. -/
def keptNumbers (disk : Disk) (here : FileNumber) (path : String) : List Nat :=
  match disk.inspect here (directoryName path) with
  | .ok (directory, _) =>
    let start := lastName path ++ ".~"
    (disk.list directory).filterMap fun name =>
      if name.startsWith start ∧ name.endsWith "~" then
        ((name.drop start.length).dropEnd 1).toString.toNat?
      else none
  | .error _ => []

/-- The name under which what stands at a path is kept. -/
def keptName (disk : Disk) (here : FileNumber) (suffix path : String) (keeping : Keeping) :
    String :=
  let numbers := keptNumbers disk here path
  let numbered := path ++ ".~" ++ toString (numbers.foldl max 0 + 1) ++ "~"
  match keeping with
  | .simple => path ++ suffix
  | .numbered => numbered
  | .existing => if numbers.isEmpty then path ++ suffix else numbered

end Utility

end ArtifactLens.Shell
