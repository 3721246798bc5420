import ArtifactLens.Proofs.Provider.Coverage

/-!
# What all operations keep

Operations change a provider in few ways: they keep a document, subscribe an artifact to what it is
made from, add and take away listeners, or drop everything. **A property that these changes keep is
kept by every operation** (`Provider.Stable.perform`), whether it succeeds or fails.
-/

namespace ArtifactLens

variable {σ : Type}

namespace Provider

/-- A property of providers that is kept by every change which operations make. -/
structure Stable (σ : Type) (Holds : Provider → Prop) : Prop where
  keep : ∀ {provider}, Holds provider → ∀ artifact document, Holds (provider.keep artifact document)
  follow : ∀ {provider}, Holds provider → ∀ found database artifact (world : World σ),
    Holds { provider with watches := (provider.watches.follow found database artifact world).1 }
  listen : ∀ {provider}, Holds provider → ∀ listeners, Holds { provider with listeners }
  dispose : ∀ {provider}, Holds provider → ∀ world : World σ, Holds (provider.dispose world).1

namespace Stable

variable {Holds : Provider → Prop} (stable : Stable σ Holds) (tools : Toolchain σ)
  {provider : Provider}

include stable

theorem document (holds : Holds provider) (artifact : Path) (session : Session)
    (world : World σ) : Holds (provider.document tools artifact session world).2.1 := by
  have hdocumented := provider.documented tools artifact session world
  generalize provider.document tools artifact session world = step at hdocumented
  cases hdocumented with
  | kept | unbuilt => exact holds
  | unsourced document => exact stable.keep holds artifact document
  | watched document found later last after final =>
    exact stable.follow (stable.keep holds artifact document) found last.database artifact final

theorem reload (holds : Holds provider) (artifact : Path) (session : Session)
    (world : World σ) : Holds (provider.reload tools artifact session world).2.1 := by
  have hreloaded := provider.reloaded tools artifact session world
  generalize provider.reload tools artifact session world = step at hreloaded
  cases hreloaded with
  | failed => exact holds
  | reloaded document => exact stable.keep holds artifact document

theorem reloadAll (holds : Holds provider) (artifacts : List Path) (session : Session)
    (world : World σ) : Holds (provider.reloadAll tools artifacts session world).2.1 := by
  induction artifacts generalizing provider session world with
  | nil => exact holds
  | cons artifact rest ih =>
    have hreload := stable.reload tools holds artifact session world
    rw [Provider.reloadAll]
    rcases made : provider.reload tools artifact session world with ⟨failure | _, later, last⟩
    · rwa [made] at hreload
    · rw [made] at hreload
      exact ih hreload ..

theorem perform (holds : Holds provider) (op : Op) (session : Session) (world : World σ) :
    Holds (op.perform tools provider session world).1 := by
  cases op with
  | document artifact => exact stable.document tools holds artifact session world
  | request source kind =>
    have hrequested := provider.requested tools source kind session world
    rw [Op.perform]
    generalize provider.request tools source kind session world = step at hrequested
    cases hrequested with
    | broken | missing => exact holds
    | undocumented artifact later after failure final asked made
    | shown artifact later after document final asked made =>
      have hdocument := stable.document tools holds artifact later after
      rwa [made] at hdocument
  | reload artifact => exact stable.reload tools holds artifact session world
  | receive event => exact stable.reloadAll tools holds _ session world
  | setExtraArgs => exact holds
  | subscribe | unsubscribe => exact stable.listen holds _
  | dispose => exact stable.dispose holds world

end Stable

end Provider

end ArtifactLens
