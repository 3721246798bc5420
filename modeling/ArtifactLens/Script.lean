import ArtifactLens.World

/-!
# Scripted tools

A toolchain that follows a script in place of a compiler: every run has the same outcome, and a
run that succeeds leaves a file with a set content where the command says its output goes. The
modification time of that file advances from run to run.
-/

namespace ArtifactLens

/-- What every run of the scripted compiler does. -/
structure Script where
  outcome : ProcessOutcome
  /-- The text of the file that a successful run leaves, if it leaves one. -/
  text : Option String
  /-- The content of that file in place of the text, unless empty. -/
  octets : Octets
  /-- When the next file will have been modified. -/
  modified : Instant
  /-- How far that moment advances with each file. -/
  advance : Instant

namespace Script

/-- The text between the first quoted `-o` of a command and the next quote. -/
def target? (command : List Char) : Option (List Char) :=
  let mark := " -o \"".toList
  if mark.isPrefixOf command then
    let text := command.drop mark.length
    let target := text.takeWhile (· != '"')
    if target.length < text.length then some target else none
  else
    match command with
    | [] => none
    | _ :: rest => target? rest

/-- The content of the file that a successful run leaves, if it leaves one. -/
def output (script : Script) : Option Octets :=
  if script.octets.isEmpty then script.text.map Utf8.encode else some script.octets

/-- Runs the scripted compiler. -/
def run (host : Host) (command : String) (files : FileSystem) (script : Script) :
    ProcessOutcome × FileSystem × Script :=
  match script.outcome.exitCode, script.output, target? command.toList with
  | some 0, some content, some target =>
    (script.outcome,
      files.put host (Path.ofText (String.ofList target)) (.file content script.modified false),
      { script with modified := script.modified.after script.advance })
  | _, _, _ => (script.outcome, files, script)

/-- The toolchain that follows a script. Its demangler leaves files as they are. -/
def toolchain (host : Host) : Toolchain Script where
  run command _ files script :=
    let (outcome, files, script) := script.run host command files
    (.ok outcome, files, script)
  demangle _ files := (.ok (), files)

/-- A change of a scripted world from outside. -/
inductive Act where
  | put (path : Path) (node : Node)
  | remove (path : Path)
  | touch (path : Path) (modified : Instant)
  | clock (now : Instant)
  /-- The script goes on as another. -/
  | tools (change : Script → Script)

/-- Makes a change. Only a touch of a missing file fails. -/
def Act.apply (act : Act) (world : World Script) : Except Failure (World Script) :=
  match act with
  | .put path node => .ok { world with files := world.files.put world.host path node }
  | .remove path => .ok { world with files := world.files.remove world.host path }
  | .touch path modified =>
    match world.files.touch world.host path modified with
    | .ok files => .ok { world with files }
    | .error fault => .error (.file fault)
  | .clock now => .ok { world with clock := now }
  | .tools change => .ok { world with tools := change world.tools }

end Script

end ArtifactLens
