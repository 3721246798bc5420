import ArtifactLens.Shell.Expansion
import ArtifactLens.Shell.Parser

/-!
# The state of a shell

A shell runs a command by a stack of frames: each says what is still to be done once the command
above it has come to its end. The mode tells whether a command is about to run, has just settled
with a status, or is being left by a jump.
-/

namespace ArtifactLens.Shell

/-- A jump out of commands. -/
inductive Leap where
  /-- Out of a number of loops. -/
  | leaveLoop (depth : Nat)
  /-- To the next round of a loop, out of the loops within it. -/
  | nextRound (depth : Nat)
  /-- Out of a function or a script that was read in. -/
  | fromCall
  /-- Out of the shell. -/
  | fromShell
  deriving DecidableEq, Repr

/-- Where descriptors led before redirections: under which descriptor that is kept, if they led
anywhere. -/
abbrev Kept := List (Nat × Option Nat)

/-- A simple command whose words were expanded and whose redirections were carried out. -/
structure Prepared where
  fields : List String
  assignments : List (String × Word)
  kept : Kept
  /-- Its words held a substitution. -/
  hasSubstituted : Bool

/-- What needs the output of a substitution. -/
inductive Needed where
  /-- A command. `tested` tells that its failure is looked at, so that it does not end the shell. -/
  | command (command : Command) (tested : Bool)
  /-- The assignments of a simple command. -/
  | assignments (prepared : Prepared) (tested : Bool)

/-- What the shell is about to do. -/
inductive Mode where
  /-- Run a command. `tested` tells that its failure is looked at, so that it does not end the
  shell; `answers` are the outputs of its substitutions so far. -/
  | run (command : Command) (tested : Bool) (answers : List String)
  /-- Make the assignments of a simple command, then run it. -/
  | assign (prepared : Prepared) (tested : Bool) (answers : List String)
  /-- Go on with the frame on top: the command has ended with the status in memory. -/
  | settled
  | leap (leap : Leap)

/-- What is done once the outputs of substitutions are known. -/
def Needed.mode (answers : List String) : Needed → Mode
  | .command body tested => .run body tested answers
  | .assignments prepared tested => .assign prepared tested answers

/-- Where the commands of a script come from. -/
inductive ScriptKind where
  | whole
  | evaluated
  | included
  deriving DecidableEq, Repr

/-- What remains to be done after a command. -/
inductive Frame where
  /-- Run another command. -/
  | next (second : Command) (tested : Bool)
  /-- Run another command after a success, or after a failure. -/
  | branch (onSuccess : Bool) (second : Command) (tested : Bool)
  /-- Turn success into failure and back. -/
  | negate
  /-- Run one of two commands. -/
  | choice (yes no : Command) (tested : Bool)
  /-- A loop whose condition runs; `last` is the status of the body. -/
  | test (isUntil : Bool) (test body : Command) (tested : Bool) (last : Nat)
  /-- A loop whose body runs. -/
  | body (isUntil : Bool) (test body : Command) (tested : Bool)
  /-- A loop over values. -/
  | each (name : String) (values : List String) (body : Command) (tested : Bool)
  /-- Put descriptors back from where they are kept. -/
  | redirected (kept : Kept)
  /-- Put variables back. -/
  | bindings (kept : List (String × Option Variable))
  /-- Leave a function: put back the parameters, the reading of options, loops and variables. -/
  | call (positional : List String) (place : OptionPlace) (loops : Nat)
      (kept : List (String × Option Variable))
  /-- Read the next command of a script; `hasRun` tells that there was one before. -/
  | script (kind : ScriptKind) (reader : Reader) (tested hasRun : Bool)
  /-- Read a script from the input; the pieces read are in reverse. -/
  | input (pieces : List String)
  /-- Put back the name under which messages appear. -/
  | named (name : Option String)
  /-- Collect the output of a substitution, then go on with what needs it. -/
  | collect (process descriptor : Nat) (pieces : List String) (needed : Needed)
      (answers : List String)
  /-- Wait for processes, the last of which gives the status. -/
  | await (processes : List Nat) (last : Nat)
  /-- Wait for background processes; with a number, that one gives the status. -/
  | awaitJobs (processes : List Nat) (last : Option Nat)
  /-- Write a text; a failure is told under the name of a command. -/
  | write (descriptor : Nat) (text : String) (teller : Option String)
  /-- End the shell on failure if it is told to. -/
  | checked
  /-- After the action of a trap, put back the status. -/
  | trapped (status : Nat)
  /-- Read a line into variables. -/
  | readLine (raw : Bool) (names : List String) (text : String)
  /-- Where a shell that gives up goes on, standing in a number of loops. -/
  | guard (loops : Nat)

/-- The frame puts something back that a command had changed for itself. -/
def Frame.restores : Frame → Bool
  | .redirected _ | .bindings _ | .call .. | .named _ => true
  | _ => false

/-- The frame is one where a shell that gives up goes on. -/
def Frame.isGuard : Frame → Bool
  | .guard _ => true
  | _ => false

/-- Processes that were started together in the background. -/
structure BackgroundJob where
  number : Nat
  processes : List Nat
  /-- How the last of the processes ended. -/
  ending : Option Ending := none
  /-- The shell has waited for the processes; once they have ended they may be forgotten. -/
  wasAwaited : Bool := false

/-- A shell. -/
structure Shell where
  memory : Memory
  functions : Table String Command
  aliases : Table String String
  /-- Actions by signal; 0 is the end of the shell. An empty action ignores the signal. -/
  traps : Table Nat String
  /-- The bodies of here-documents by number. -/
  documents : List (Nat × Word)
  nextDocument : Nat
  jobs : List BackgroundJob
  /-- The command under whose name messages appear. -/
  commandName : Option String
  /-- How many loops the command stands in. -/
  loops : Nat
  /-- How many functions the command stands in. -/
  calls : Nat
  /-- The commands whose programs were looked up. -/
  tracked : List String
  /-- The working directory, as the path that led there. -/
  directory : String
  /-- The status of the last substitution of the command. -/
  substituted : Nat
  /-- The shell was forked off another one. -/
  isFork : Bool
  frames : List Frame
  mode : Mode

namespace Shell

/-- The shell with another memory. -/
def remember (shell : Shell) (memory : Memory) : Shell := { shell with memory }

/-- The command settles with a status. -/
def settle (shell : Shell) (status : Nat) : Shell :=
  { shell with memory.status := status, mode := .settled }

/-- Puts a frame on the stack. -/
def push (shell : Shell) (frame : Frame) : Shell := { shell with frames := frame :: shell.frames }

/-- The beginning of every message. -/
def messageStart (shell : Shell) : String :=
  shell.memory.name ++ ": " ++ toString shell.memory.line ++ ": " ++
    match shell.commandName with
    | some name => name ++ ": "
    | none => ""

/-- A message. -/
def message (shell : Shell) (text : String) : String := shell.messageStart ++ text ++ "\n"

/-- Writes a complaint, then settles with a status. -/
def complain (shell : Shell) (text : String) (status : Nat) : Shell :=
  (shell.settle status).push (.write 2 (shell.message text) none)

/-- The shell as it ends: nothing remains to be done but to put back descriptors and parameters. -/
def abandon (shell : Shell) : Shell :=
  { shell with
    mode := .settled, loops := 0, commandName := none
    frames := shell.frames.filterMap fun frame =>
      match frame with
      | .redirected kept => some (.redirected kept)
      | .call positional place _ _ => some (.call positional place 0 [])
      | _ => none }

/-- Gives up with a status: goes on where a guard stands, or else ends the shell. -/
def fail (shell : Shell) (status : Nat) : Shell :=
  let shell := shell.settle status
  if shell.frames.any Frame.isGuard then
    let inner := shell.frames.takeWhile (!·.isGuard)
    { shell with frames := inner.filter Frame.restores ++ shell.frames.drop inner.length }
  else shell.abandon

/-- Writes a complaint, then gives up. -/
def giveUp (shell : Shell) (text : String) (status : Nat := 2) : Shell :=
  (shell.fail status).push (.write 2 (shell.message text) none)

end Shell

end ArtifactLens.Shell
