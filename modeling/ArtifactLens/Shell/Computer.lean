import ArtifactLens.External
import ArtifactLens.Shell.Scheduler
import ArtifactLens.Shell.Utility.Catalogue

/-!
# Commands on a bare computer

A machine with the programs of the catalogue, on which a command is run by the shell, or a program
by its words. Every run starts from the same disk.
-/

namespace ArtifactLens.Shell

namespace Computer

/-- The environment of the programs that are called. -/
def environment : Environment :=
  [("HOME", "/home/tester"), ("LANG", "C.UTF-8"),
    ("PATH", "/usr/local/bin:/usr/local/sbin:/usr/sbin:/usr/bin:/sbin:/bin")]

/-- The programs of the machine. -/
def programs : Programs := fun name => (Utility.catalogue.find? (·.1 == name)).map (·.2)

/-- The disk of the machine. -/
def disk : Disk := Disk.bare (Utility.catalogue.map (·.1) ++ Utility.shellNames)

/-- A word of this many octets is too long to be handed over. -/
def wordLimit : Nat := 131072

/-- The number of the reason for which a start fails. -/
def faultNumber : SystemFault → Nat
  | .missing => 2
  | .badFormat => 8
  | .denied => 13
  | .notDirectory => 20
  | .isDirectory => 21
  | .tooManyLinks => 40
  | _ => 22

/-- The fault of a start that the system refuses. -/
def startFault (fault : SystemFault) (subject : String) : StartFault :=
  .system (faultNumber fault) fault.message subject

/-- What was put out, in order. -/
def collected (pieces : List String) : Octets :=
  OctetText.toOctets (String.join pieces.reverse)

/-- The number of the directory in which a program is to run. -/
def numberOf (directory : Path) : Except StartFault FileNumber :=
  match disk.inspect Disk.root (OctetText.ofText directory.text) with
  | .ok (number, { body := .directory .., .. }) => .ok number
  | .ok _ => .error (startFault .notDirectory directory.text)
  | .error fault => .error (startFault fault directory.text)

/-- Runs words as a program in a directory, with an input or none, for no longer than a number of
nanoseconds. -/
def course (words : List String) (directory : Path) (input : Option Octets) (limit : Option Nat) :
    Course :=
  if words.any (·.contains '\x00') then .refused .nullCharacter
  else
    match numberOf directory with
    | .error fault => .refused fault
    | .ok here =>
      let texts := words.map OctetText.ofText
      let program := texts.headD ""
      let path? := if program.contains '/' then some program
        else Names.search? disk here (((environment.find? (·.1 == "PATH")).map (·.2)).getD "")
          program
      let file? := path?.map fun path => disk.inspect here path
      let subject := words.headD ""
      match file? with
      | none => .refused (startFault .missing subject)
      | some (.error fault) => .refused (startFault fault subject)
      | some (.ok (_, file)) =>
        if !file.isExecutable then .refused (startFault .denied subject)
        else if texts.any (·.length ≥ wordLimit) then
          .refused (.system 7 "Argument list too long" subject)
        else
          let job : Job := .become (path?.getD program) texts environment fun _ => .exit 127
          let kernel := Scheduler.machine disk here (input.map OctetText.ofOctets) job
          let (kernel, ending) :=
            Scheduler.run programs limit Scheduler.firstProcess kernel 0 Scheduler.turns
          let stdout := collected kernel.output
          let stderr := collected kernel.complaints
          match ending with
          | some (.exit status) => .finished (status % 256 : Nat) stdout stderr
          | some (.signal number) => .finished (-(number : Int)) stdout stderr
          | none => .expired stdout stderr

/-- Runs a command by the shell. -/
def command (text : String) (directory : Path) (limit : Option Nat) : Course :=
  course ["/bin/sh", "-c", text] directory none limit

/-- Runs a program as a filter of an input. -/
def filter (words : List String) (input : Octets) : Course :=
  course words (Path.ofText "/") (some input) none

end Computer

end ArtifactLens.Shell
