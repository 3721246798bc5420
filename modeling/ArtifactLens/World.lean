import ArtifactLens.Failure

/-!
# The world of a session

What a session acts on: the host, the file system, the clock, and the tools that build artifacts.
The tools are functions on the file system with a state of their own, so that any compiler can
stand behind them. Every call of a tool and every act of an observer or a listener is noted in the
trace, which only grows.
-/

namespace ArtifactLens

/-- Who is told about documents that changed. -/
inductive Listener where
  /-- A listener with a name; the number tells apart listeners of one name. -/
  | named (name : String) (number : Nat)
  /-- The display of the command line. -/
  | display
  deriving DecidableEq, Repr

/-- An act worth noting. -/
inductive Event where
  | ran (command : String) (directory : Path)
  | demangled (artifact : Path)
  | started
  | scheduled (directory : Path) (recursive : Bool)
  | unscheduled (directory : Path)
  | stopped
  | joined
  | changed (subscriber : Path)
  | notified (listener : Listener) (artifact : Path)
  deriving DecidableEq

/-- The tools that make artifacts. A tool may give up with a failure. -/
structure Toolchain (σ : Type) where
  /-- Runs a command in a directory. -/
  run : (command : String) → (directory : Path) → FileSystem → σ →
    Except Failure ProcessOutcome × FileSystem × σ
  /-- Rewrites the mangled names of an artifact in place. -/
  demangle : (artifact : Path) → FileSystem → Except Failure Unit × FileSystem

/-- The state of everything outside a session. -/
structure World (σ : Type) where
  host : Host
  files : FileSystem
  clock : Instant
  /-- The state of the tools. -/
  tools : σ
  /-- What happened so far. -/
  trace : List Event

namespace World

/-- Notes an act. -/
def note {σ : Type} (world : World σ) (event : Event) : World σ :=
  { world with trace := world.trace ++ [event] }

end World

namespace Toolchain

variable {σ : Type}

/-- Builds one artifact: runs the command of its record with the extra arguments, and after a
success demangles the artifact and keeps the arguments in the record. -/
def execute (tools : Toolchain σ) (record : BuildRecord) (extraArgs : List String)
    (world : World σ) : Except Failure BuildResult × BuildRecord × World σ :=
  let command := String.intercalate " " (record.command :: extraArgs)
  let world := world.note (.ran command record.directory)
  let (outcome, files, state) := tools.run command record.directory world.files world.tools
  let world := { world with files, tools := state }
  match outcome with
  | .error failure => (.error failure, record, world)
  | .ok outcome =>
    let result : BuildResult := {
      success := outcome.exitCode == some 0
      command
      stdout := outcome.stdout
      stderr := outcome.stderr
      exitCode := outcome.exitCode }
    if result.success then
      let world := world.note (.demangled record.artifact)
      let (done, files) := tools.demangle record.artifact world.files
      let world := { world with files }
      match done with
      | .error failure => (.error failure, record, world)
      | .ok () => (.ok result, { record with lastExtraArgs := extraArgs }, world)
    else (.ok result, record, world)

end Toolchain

end ArtifactLens
