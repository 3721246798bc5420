import ArtifactLens.Shell.Computer
import ArtifactLens.Snapshot

/-!
# The program

Reads a snapshot from its input, runs the command that its arguments spell, and prints what the
command shows. While `watch` waits, every further line of the input is what happens; the end of
the input interrupts it. Builds run on the bare computer, which has no compiler, so `show` prints
artifacts that are up to date and tells of the failed build of others.
-/

namespace ArtifactLens

namespace Program

/-- A line of the input without its end; none at the end of the input. -/
def readLine (input : IO.FS.Stream) : IO (Option String) := do
  let line ← input.getLine
  if line.isEmpty then return none
  else return some (if line.endsWith "\n" then (line.dropEnd 1).toString else line)

/-- The host as the environment tells of it. -/
def host : IO Host := do
  let workDir := ((← IO.getEnv "PWD").getD "/")
  let home := ((← IO.getEnv "HOME").getD "/root")
  return ⟨Path.ofText workDir, home, Shell.Disk.accounts.map fun (name, _, _, home) => (name, home)⟩

/-- Reads the description of a world. -/
partial def readWorld (input : IO.FS.Stream) (world : World Unit) : IO (World Unit) := do
  match ← readLine input with
  | none | some "" => return world
  | some line =>
    match Snapshot.Line.parse? line with
    | some line => readWorld input (line.describe world)
    | none => throw (IO.userError ("no line of a snapshot: " ++ line))

/-- The nanoseconds of a time limit; a limit that is no number of seconds is none. -/
def nanoseconds (limit : Binary64) : Option Nat :=
  limit.toRat?.map fun seconds => (seconds * 1000000000).floor.toNat

/-- The programs that build artifacts. -/
def programs (limit : Option Binary64) (clock : Instant) : External Unit where
  shell command directory files state :=
    (Shell.Computer.command command directory (limit.bind nanoseconds), files, state)
  filter := Shell.Computer.filter ["c++filt", "-t"]
  limit := Settings.timeoutText limit
  moment := clock

/-- Prints a table, each row on a line of its own. -/
def printDisplay (output : IO.FS.Stream) : Display → IO Unit
  | .text text => output.putStr text
  | .table title rows => do
    output.putStrLn title
    rows.forM fun row => output.putStrLn (String.intercalate "  " row)

/-- Ends a command by its outcome. -/
def conclude (output complaints : IO.FS.Stream) :
    Except Failure CommandLine.Report → IO UInt32
  | .error failure => do
    complaints.putStrLn failure.message
    return 1
  | .ok report => do
    printDisplay output report.shown
    complaints.putStr report.complaint
    return UInt32.ofNat report.exit

/-- Goes on with a `watch`, by the lines of the input. -/
partial def watch (tools : Toolchain Unit) (input output complaints : IO.FS.Stream)
    (watching : CommandLine.Watching Unit) : IO UInt32 := do
  match ← readLine input with
  | none => return 0
  | some line =>
    match Snapshot.Line.parse? line with
    | none => watch tools input output complaints watching
    | some line =>
      match watching.step tools line.happening with
      | (.error failure, _) => conclude output complaints (.error failure)
      | (.ok shown, watching) =>
        output.putStr shown
        output.flush
        watch tools input output complaints watching

end Program

end ArtifactLens

open ArtifactLens in
/-- Runs the command that the arguments spell. -/
def main (argv : List String) : IO UInt32 := do
  let input ← IO.getStdin
  let output ← IO.getStdout
  let complaints ← IO.getStderr
  match Options.parse? argv with
  | none =>
    complaints.putStrLn "usage: (list | show | watch) [options]"
    return 2
  | some options =>
    let host ← Program.host
    let world ← Program.readWorld input ⟨host, .empty, 0, (), []⟩
    let tools := (Program.programs options.timeout world.clock).toolchain host
    match CommandLine.begin tools options world with
    | .ended outcome _ => Program.conclude output complaints outcome
    | .waiting shown watching =>
      output.putStr shown
      output.flush
      Program.watch tools input output complaints watching
