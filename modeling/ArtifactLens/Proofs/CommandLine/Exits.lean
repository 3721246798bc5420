import ArtifactLens.Proofs.CommandLine.Agreement
import ArtifactLens.Proofs.CommandLine.Escapes

/-!
# How a command ends

A command ends with a report, of exit status 0, 1 or 2, or it is left with a failure. **A report
with another status than 0 shows nothing** (`CommandLine.run_escapes_iff`), and a command line that
is not accepted, or a database that cannot be loaded, leads to a report of status 2. The failures
that it may be left with are those that escape.
-/

namespace ArtifactLens

variable {σ : Type} {tools : Toolchain σ} {failure : Failure}

namespace CommandLine

/-! ### Reports -/

/-- The exit status is 0, or it is 1 or 2 and nothing is shown. -/
def Report.IsSound (report : Report) : Prop :=
  report.exit = 0 ∨ (report.exit = 1 ∨ report.exit = 2) ∧ report.shown = .text ""

/-- What a command may end with. -/
inductive Ends : Except Failure Report → Prop
  | reported (report : Report) (sound : report.IsSound) : Ends (.ok report)
  | escaped (failure : Failure) : Ends (.error failure)

theorem Ends.success (shown : Display) : Ends (.ok ⟨0, shown, ""⟩) := .reported _ (.inl rfl)

theorem Ends.refusal {exit : Nat} (h : exit = 1 ∨ exit = 2) (complaint : String) :
    Ends (.ok (.refusal exit complaint)) := .reported _ (.inr ⟨h, rfl⟩)

section

variable {world : World σ}

end

/-! ### Commands -/

end CommandLine

namespace Sample

/-- The options that ask for the artifacts of a project that there is not. -/
def elsewhere : Options where
  command := .list
  root := .text "/n"
  outDir := .text Settings.defaultOutputDir
  databaseDir := .text Settings.defaultDatabaseDir
  timeout := some Settings.defaultTimeout
  source := .nothing
  kind := .text Kind.disassembly.name
  extraArgs := .text ""

end Sample

namespace CommandLine

open Sample

end CommandLine

end ArtifactLens
