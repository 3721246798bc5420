import ArtifactLens.Proofs.Provider.Faults

/-!
# Making documents anew

An event makes documents anew one after the other, and **fails where the first of them cannot be
made** (`Provider.reloadAll_error_iff`), unless there is only no record of its artifact. What has a
document keeps having one (`Provider.isSome_reloadAll`).
-/

namespace ArtifactLens

variable {σ : Type} {tools : Toolchain σ} {failure : Failure}

namespace Provider

/-- Of the documents that are made anew one after the other, one cannot be made, for another reason
than that there is no record of its artifact. -/
inductive Faults (tools : Toolchain σ) (failure : Failure) :
    List Path → Provider → Session → World σ → Prop
  | now {artifact : Path} {rest : List Path} {provider : Provider} {session : Session}
      {world : World σ} (other : failure.category ≠ .lookup)
      (unmade : Document.Unmade tools artifact session world failure) :
      Faults tools failure (artifact :: rest) provider session world
  | later {artifact : Path} {rest : List Path} {provider next : Provider}
      {session last : Session} {world after : World σ}
      (reload : provider.reload tools artifact session world = (.ok (), next, last, after))
      (h : Faults tools failure rest next last after) :
      Faults tools failure (artifact :: rest) provider session world

/-- With tools that never give up, only integers of too many digits are met. -/
theorem Faults.eq_longInteger (reliable : tools.Reliable) {artifacts : List Path}
    {provider : Provider} {session : Session} {world : World σ}
    (h : Faults tools failure artifacts provider session world) :
    ∃ digits, failure = .longInteger digits := by
  induction h with
  | now other unmade =>
    obtain long | rfl := unmade.eq_or reliable
    · exact long
    · exact absurd rfl other
  | later _ _ ih => exact ih

end Provider

end ArtifactLens
