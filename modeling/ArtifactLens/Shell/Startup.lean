import ArtifactLens.Shell.Machine

/-!
# Starting a shell

A shell that is called as a program reads its options first. They say where its commands come
from: an argument, a file, or the input.
-/

namespace ArtifactLens.Shell

namespace Startup

/-- What the arguments of a shell say. -/
structure Orders where
  memory : Memory
  fromArgument : Bool := false
  fromInput : Bool := false

/-- Reads the letters of an option. -/
def letters (on : Bool) (orders : Orders) :
    List Char → List String → Except String (Orders × List String)
  | [], rest => .ok (orders, rest)
  | 'c' :: more, rest => letters on { orders with fromArgument := true } more rest
  | 's' :: more, rest =>
    letters on { orders with
      fromInput := on, memory := Builtin.setOption orders.memory 's' on } more rest
  | 'l' :: more, rest => letters on orders more rest
  | letter :: more, rest =>
    match Builtin.setLetters on ⟨orders.memory, none, ""⟩ [letter] rest with
    | .ok (setting, rest) => letters on { orders with memory := setting.memory } more rest
    | .error complaint => .error complaint

/-- Reads the options of a shell. -/
def options (orders : Orders) : (measure : Nat) → List String → Except String (Orders × List String)
  | 0, rest => .ok (orders, rest)
  | _ + 1, [] => .ok (orders, [])
  | measure + 1, arg :: rest =>
    match arg.toList with
    | ['-'] | ['-', '-'] => .ok (orders, rest)
    | '-' :: cs =>
      match letters true orders cs rest with
      | .ok (orders, rest) => options orders measure rest
      | .error complaint => .error complaint
    | '+' :: cs =>
      match letters false orders cs rest with
      | .ok (orders, rest) => options orders measure rest
      | .error complaint => .error complaint
    | _ => .ok (orders, arg :: rest)

/-- A shell with nothing to do. -/
def idle (memory : Memory) (directory : String) : Shell :=
  { memory, functions := .empty, aliases := .empty, traps := .empty, documents := []
    nextDocument := 0, jobs := [], commandName := none, loops := 0, calls := 0, tracked := []
    directory, substituted := 0, isFork := false, frames := [], mode := .settled }

/-- A shell that complains and ends. -/
def refused (shell : Shell) (complaint : String) : Shell :=
  ({ shell with memory.line := 0 }).giveUp complaint

/-- The shell that the words of a call start. -/
def start (disk : Disk) (here : FileNumber) (environment : Environment) (process parent : Nat)
    (words : List String) : Shell :=
  let directory := disk.pathOf here
  let name := words.headD "sh"
  let memory := Memory.initial environment directory name [] process parent
  match options { memory } (words.length + 1) (words.drop 1) with
  | .error complaint => refused (idle memory directory) complaint
  | .ok (orders, rest) =>
    let ready (name : String) (positional : List String) : Shell :=
      idle { orders.memory with name, positional } directory
    if orders.fromArgument then
      match rest with
      | [] => refused (idle memory directory) "-c requires an argument"
      | [text] => (ready name []).runText .whole text false
      | text :: name :: positional => (ready name positional).runText .whole text false
    else
      match rest, orders.fromInput with
      | file :: positional, false =>
        let shell := ready file positional
        match disk.inspect here file with
        | .ok (_, { body := .octets content, .. }) => shell.runText .whole content false
        | .ok _ => shell.runText .whole "" false
        | .error fault =>
          refused (idle memory directory)
            ("cannot open " ++ file ++ ": " ++ Redirecting.openFault false fault)
      | positional, _ =>
        let shell := ready name positional
        let shell := shell.remember (Builtin.setOption shell.memory 's' true)
        shell.push (.input [])

end Startup

end ArtifactLens.Shell
