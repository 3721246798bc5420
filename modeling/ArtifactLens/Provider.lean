import ArtifactLens.Document
import ArtifactLens.WatchTable

/-!
# The document provider

Documents are kept once they are made. The first request for an artifact subscribes it to its
source and to the database; an event on either makes the document anew and tells every listener.
-/

namespace ArtifactLens

/-- The state of a provider. -/
structure Provider where
  /-- Artifacts are listings of binaries. -/
  binary : Bool
  watches : WatchTable
  documents : Table Path Document
  /-- The listeners, in the order of their subscription. -/
  listeners : List Listener

namespace Provider

variable {σ : Type}

/-- An answer or a failure, with the provider, the session and the world afterwards. -/
abbrev Step (σ α : Type) := Except Failure α × Provider × Session × World σ

/-- A provider that keeps no document. -/
def start (binary : Bool) : Provider := ⟨binary, .empty, .empty, []⟩

/-- The document of an artifact: the one that is kept, or a new one. -/
def document (tools : Toolchain σ) (artifact : Path) (provider : Provider) (session : Session)
    (world : World σ) : Step σ Document :=
  match provider.documents.get? artifact with
  | some document => (.ok document, provider, session, world)
  | none =>
    match Document.build tools provider.binary artifact session world with
    | (.error failure, session, world) => (.error failure, provider, session, world)
    | (.ok document, session, world) =>
      let provider := { provider with documents := provider.documents.insert artifact document }
      match session.sourceFor artifact world with
      | (.error failure, session, world) => (.error failure, provider, session, world)
      | (.ok source, session, world) =>
        let (watches, world) := match source with
          | some source => provider.watches.watch source artifact world
          | none => (provider.watches, world)
        let (watches, world) := watches.watch session.database artifact world
        (.ok document, { provider with watches }, session, world)

/-- The text of a view of a source. -/
def request (tools : Toolchain σ) (source : Path) (kind : Kind) (provider : Provider)
    (session : Session) (world : World σ) : Step σ String :=
  match session.artifactFor source kind world with
  | (.error failure, session, world) => (.error failure, provider, session, world)
  | (.ok none, session, world) => (.error (.noCommand source kind), provider, session, world)
  | (.ok (some artifact), session, world) =>
    match provider.document tools artifact session world with
    | (.error failure, provider, session, world) => (.error failure, provider, session, world)
    | (.ok document, provider, session, world) => (.ok document.render, provider, session, world)

/-- Tells every listener that the document of an artifact changed. -/
def notify (provider : Provider) (artifact : Path) (world : World σ) : World σ :=
  provider.listeners.foldl (fun world listener => world.note (.notified listener artifact)) world

/-- Makes the document of an artifact anew and tells the listeners. An artifact without record
gets a document that says so. -/
def reload (tools : Toolchain σ) (artifact : Path) (provider : Provider) (session : Session)
    (world : World σ) : Step σ Unit :=
  let (built, session, world) := Document.build tools provider.binary artifact session world
  let document : Except Failure Document := match built with
    | .ok document => .ok document
    | .error failure =>
      if failure.category = .lookup then .ok (Document.failed artifact failure.message)
      else .error failure
  match document with
  | .error failure => (.error failure, provider, session, world)
  | .ok document =>
    let provider := { provider with documents := provider.documents.insert artifact document }
    (.ok (), provider, session, provider.notify artifact world)

/-- Makes documents anew, one after the other; the first failure ends it. -/
def reloadAll (tools : Toolchain σ) : List Path → Provider → Session → World σ → Step σ Unit
  | [], provider, session, world => (.ok (), provider, session, world)
  | artifact :: rest, provider, session, world =>
    match provider.reload tools artifact session world with
    | (.error failure, provider, session, world) => (.error failure, provider, session, world)
    | (.ok (), provider, session, world) => reloadAll tools rest provider session world

/-- Takes in a file-system event. -/
def receive (tools : Toolchain σ) (event : FileEvent) (provider : Provider) (session : Session)
    (world : World σ) : Step σ Unit :=
  reloadAll tools (provider.watches.heard event) provider session world

/-- Adds a listener. -/
def subscribe (provider : Provider) (listener : Listener) : Provider :=
  { provider with listeners := provider.listeners ++ [listener] }

/-- Takes the first subscription of a listener away, if there is one. -/
def unsubscribe (provider : Provider) (listener : Listener) : Provider :=
  { provider with listeners := provider.listeners.erase listener }

/-- Drops all watches, documents and listeners. -/
def dispose (provider : Provider) (world : World σ) : Provider × World σ :=
  let (watches, world) := provider.watches.close world
  ({ provider with watches, documents := .empty, listeners := [] }, world)

end Provider

end ArtifactLens
