import ArtifactLens.Text.Lines
import ArtifactLens.World

/-!
# External programs

Builds and the demangling of artifacts are done by programs from outside, of which nothing is
assumed: a program may fail to start, may end with any exit code and any output, and may be ended
because it takes too long. `Course.outcome` is what a build makes of such a course, and
`External.demangle` what becomes of an artifact. Output is taken as UTF-8, and output that is no
text is the only way in which either gives up, apart from a null character in the words of the
filter.
-/

namespace ArtifactLens

/-- Why a program could not be started. -/
inductive StartFault where
  /-- A null character stands in what is to be handed over. -/
  | nullCharacter
  /-- The system refuses, with the number and the wording of a reason. -/
  | system (number : Nat) (wording subject : String)
  deriving DecidableEq, Repr

/-- The wording of a start fault. -/
def StartFault.message : StartFault → String
  | .nullCharacter => "embedded null byte"
  | .system number wording subject =>
    "[Errno " ++ toString number ++ "] " ++ wording ++ ": " ++ Quoted.quote subject

/-- What became of a program that was called. -/
inductive Course where
  | refused (fault : StartFault)
  /-- The program ended; the exit code of one that a signal ended is its number, negated. -/
  | finished (exitCode : Int) (stdout stderr : Octets)
  /-- The program was ended because its time had run out. -/
  | expired (stdout stderr : Octets)
  deriving DecidableEq

/-- The text that a program has written: ends of lines become newlines. -/
def Course.text (output : Octets) : Except Failure String :=
  match Utf8.decode output with
  | .ok text => .ok (String.ofList (Lines.normalize text))
  | .error fault => .error (.undecodable fault)

/-- What is told in place of the complaints of a program whose time has run out. -/
def Course.expiry (limit : String) : String := "Build timed out after " ++ limit ++ " seconds."

/-- The outcome of a build by the course of its command; `limit` spells the time limit. -/
def Course.outcome (limit : String) : Course → Except Failure ProcessOutcome
  | .refused fault => .ok { stdout := "", stderr := fault.message, exitCode := none }
  | .finished exitCode stdout stderr =>
    match Course.text stdout, Course.text stderr with
    | .ok stdout, .ok stderr => .ok { stdout, stderr, exitCode := some exitCode }
    | .error failure, _ => .error failure
    | _, .error failure => .error failure
  | .expired stdout stderr =>
    match Course.text stdout, Course.text stderr with
    | .ok stdout, .ok _ => .ok { stdout, stderr := Course.expiry limit, exitCode := none }
    | .error failure, _ => .error failure
    | _, .error failure => .error failure

/-- The text that a filter puts in place of an artifact, if it does. A filter that cannot be
started or that fails changes nothing. -/
def Course.filtered : Course → Except Failure (Option String)
  | .refused .nullCharacter => .error .nullCharacter
  | .refused (.system ..) => .ok none
  | .finished exitCode stdout stderr =>
    match Course.text stdout, Course.text stderr with
    | .ok stdout, .ok _ => .ok (if exitCode = 0 then some stdout else none)
    | .error failure, _ => .error failure
    | _, .error failure => .error failure
  | .expired .. => .ok none

/-- The programs behind a toolchain. -/
structure External (σ : Type) where
  /-- What becomes of a command that the shell runs in a directory. -/
  shell : (command : String) → (directory : Path) → FileSystem → σ → Course × FileSystem × σ
  /-- What becomes of the demangling filter on an input. -/
  filter : (input : Octets) → Course
  /-- The time limit of builds, as it is spelled. -/
  limit : String
  /-- When files that the filter changes will have been modified. -/
  moment : Instant

namespace External

variable {σ : Type}

/-- The input that a filter is given for the content of an artifact. -/
def input (content : Octets) : Octets :=
  Utf8.encode (String.ofList (Lines.normalize (Utf8.decodeLossy content)))

/-- Passes an artifact through the filter, in place. -/
def demangle (programs : External σ) (host : Host) (artifact : Path) (files : FileSystem) :
    Except Failure Unit × FileSystem :=
  match files.read host artifact with
  | .error _ => (.ok (), files)
  | .ok content =>
    match (programs.filter (input content)).filtered with
    | .error failure => (.error failure, files)
    | .ok none => (.ok (), files)
    | .ok (some text) =>
      (.ok (), files.put host artifact (.file (Utf8.encode text) programs.moment false))

/-- The toolchain of external programs. -/
def toolchain (programs : External σ) (host : Host) : Toolchain σ where
  run command directory files state :=
    let (course, files, state) := programs.shell command directory files state
    (course.outcome programs.limit, files, state)
  demangle artifact files := programs.demangle host artifact files

end External

end ArtifactLens
