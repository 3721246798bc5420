import ArtifactLens.CommandLine.Run
import ArtifactLens.Proofs.CommandLine.Attaching
import ArtifactLens.Proofs.Document
import ArtifactLens.Proofs.Provider.Lookups
import ArtifactLens.Proofs.Session.Twice

/-!
# The course of a command

How far a command comes before it has to wait (`CommandLine.course`), step by step: the options are
read, a session is opened, and what the options ask for is shown or watched. The commands `show` and
`watch` have the first steps in common. `show` then compiles the artifact and reports on a document
that is made after that; `watch` prints the document that its provider keeps, unless it ends in a
failure.
-/

namespace ArtifactLens

variable {σ : Type}

/-! ### Reading the options -/

namespace Options

theorem command_of_parse {args : List String} {options : Options}
    (read : parse? ("show" :: args) = some options) : options.command = .show := by
  rw [parse?, attach_cons (by decide)] at read
  simp only [Command.ofName?, reduceCtorEq, false_or] at read
  cases given : pairs? ((attach args).map (classify .show)) with
  | none =>
    rw [given] at read
    cases read
  | some pairs =>
    rw [given] at read
    dsimp only at read
    split_ifs at read
    rw [← Option.some.inj read]

end Options

/-- Why a database cannot be loaded. -/
theorem Session.load_error_cases {session : Session} {world : World σ} {failure : Failure}
    (failed : (session.load world).1 = .error failure) :
    failure.category = .configuration ∨ failure.category = .database ∨
      failure.category = .artifact ∨ ∃ digits content, failure = .longInteger digits ∧
        world.files.read world.host session.database = .ok content ∧
          Database.Overlong content digits := by
  have hloaded := session.loaded world
  generalize session.load world = step at hloaded failed
  cases hloaded with
  | unread met read =>
    obtain rfl := Except.error.inj failed
    obtain category | category | long := Database.commands_error_cases read
    · exact .inl category
    · exact .inr (.inl category)
    · exact .inr (.inr (.inr long))
  | blocked commands fault =>
    obtain rfl := Except.error.inj failed
    exact .inr (.inr (.inl rfl))
  | loaded => cases failed

namespace CommandLine

variable {tools : Toolchain σ}

/-! ### The course of a command -/

/-- How far the command that arguments spell comes before it has to wait. -/
def course (tools : Toolchain σ) (argv : List String) (world : World σ) : Progress σ :=
  match Options.parse? argv with
  | none => .ended (.ok (.refusal 2 "")) world
  | some options => begin tools options world

/-- What opening a session comes to. -/
inductive Opening (options : Options) (world : World σ) :
    Except (Except Failure Report) Session × World σ → Prop
  | failed (failure : Failure) (after : World σ) :
      Opening options world (.error (.error failure), after)
  | refused (complaint : String) (after : World σ) :
      Opening options world (.error (.ok (.refusal 2 complaint)), after)
  | opened (places : Settings.Places) (commands : List CompileCommand) (session : Session)
      (after : World σ) (found : settings world.host options = .ok places)
      (host : after.host = world.host) (opened : session.Opened places commands after) :
      Opening options world (.ok session, after)

/-- Why a session cannot be opened, or how it is. -/
inductive Opens (options : Options) (world : World σ) :
    Except (Except Failure Report) Session × World σ → Prop
  | unplaced (failure : Failure) (unplaced : settings world.host options = .error failure) :
      Opens options world (.error (.error failure), world)
  | refused (places : Settings.Places) (failure : Failure) (after : World σ)
      (placed : settings world.host options = .ok places)
      (failed : ((Session.start places).load world).1 = .error failure)
      (category : failure.category = .configuration ∨ failure.category = .database ∨
        failure.category = .artifact) :
      Opens options world (.error (.ok (.refusal 2 (failure.message ++ "\n"))), after)
  | overlong (places : Settings.Places) (content : Octets) (digits : Nat) (after : World σ)
      (placed : settings world.host options = .ok places)
      (found : world.files.read world.host places.database = .ok content)
      (long : Database.Overlong content digits) :
      Opens options world (.error (.error (.longInteger digits)), after)
  | loaded (places : Settings.Places) (count : Nat) (session : Session) (after : World σ)
      (placed : settings world.host options = .ok places)
      (load : (Session.start places).load world = (.ok count, session, after)) :
      Opens options world (.ok session, after)

theorem opens (options : Options) (world : World σ) :
    Opens options world (openSession options world) := by
  rw [openSession]
  cases placed : settings world.host options with
  | error failure => exact .unplaced failure placed
  | ok places =>
    dsimp only
    rcases load : (Session.start places).load world with ⟨failure | count, session, after⟩
    · have failed : ((Session.start places).load world).1 = .error failure :=
        congrArg Prod.fst load
      obtain category | category | category | ⟨digits, content, rfl, found, long⟩ :=
        Session.load_error_cases failed
      · simp only [category]
        exact .refused places failure after placed failed (.inl category)
      · simp only [category]
        exact .refused places failure after placed failed (.inr (.inl category))
      · simp only [category]
        exact .refused places failure after placed failed (.inr (.inr category))
      · exact .overlong places content digits after placed found long
    · exact .loaded places count session after placed load

theorem opening (options : Options) (world : World σ) :
    Opening options world (openSession options world) := by
  have hopens := opens options world
  generalize openSession options world = step at hopens
  cases hopens with
  | unplaced failure => exact .failed failure world
  | refused places failure after => exact .refused _ after
  | overlong places content digits after => exact .failed _ after
  | loaded places count session after placed load =>
    obtain ⟨host, commands, opened⟩ := Session.Opened.of_load load
    exact .opened places commands session after placed host opened

/-- A session that was opened was loaded from the places that options name. -/
theorem opened_of_openSession {options : Options} {world after : World σ} {session : Session}
    (opens : openSession options world = (.ok session, after)) :
    ∃ places commands, settings world.host options = .ok places ∧ after.host = world.host ∧
      session.Opened places commands after := by
  have hopening := opening options world
  rw [opens] at hopening
  generalize hstep : ((.ok session, after) : Except (Except Failure Report) Session × World σ) =
    step at hopening
  cases hopening with
  | failed | refused => cases hstep
  | opened places commands session after placed host opened =>
    cases hstep
    exact ⟨places, commands, placed, host, opened⟩

/-- The source that options name is asked for, of the session with the extra arguments. -/
theorem asked_of_request {host : Host} {options : Options} {session later : Session}
    {asked : Request} (found : request host options session = .ok (asked, later)) :
    sourceOf host options = .ok asked.source ∧ ∃ extraArgs, later = { session with extraArgs } := by
  rw [request] at found
  dsimp only at found
  split at found
  · cases found
  · split at found <;> cases found
    exact ⟨by assumption, _, rfl⟩

section

variable {places : Settings.Places} {commands : List CompileCommand} {session : Session}
  {world : World σ} {asked : Request}

/-- The provider that `watch` starts with. -/
def display : Provider := (Provider.start false).subscribe .display

variable {artifact : Path} (opened : session.Opened places commands world)
  (known : session.registry.artifactFor asked.source asked.kind = some artifact)

include opened known

/-- The text that is asked for is that of the document. -/
theorem request_of_document {answer : Except Failure Document} {provider : Provider}
    {later : Session} {after : World σ}
    (made : display.document tools artifact session world = (answer, provider, later, after)) :
    display.request tools asked.source asked.kind session world =
      (answer.map Document.render, provider, later, after) := by
  rw [Provider.request, opened.artifactFor_eq, known]
  dsimp only
  rw [made]
  cases answer <;> rfl

end

/-! ### Showing an artifact -/

section

variable {artifact : Path} {session later : Session} {world after : World σ}
  {result : BuildResult}
  (compile : session.compile tools artifact world = (.ok result, later, after))

include compile

end

end CommandLine

end ArtifactLens
