import ArtifactLens.Table
import ArtifactLens.World

/-!
# The watch table

Which artifacts depend on which files. A watched file is observed through its directory, if that
is there when the watch is made; one observer serves all directories and lives until the table is
closed. An event on a watched file names its subscribers in the order of their paths.
-/

namespace ArtifactLens

/-- What happened to a file. -/
inductive FileEvent.Change where
  | created
  | modified
  | deleted
  | moved
  /-- A change that leaves the content as it is, such as opening the file. -/
  | other
  deriving DecidableEq, Repr

/-- A file-system event. -/
structure FileEvent where
  change : FileEvent.Change
  path : Path
  /-- Where a file was moved to. -/
  destination : Option Path
  isDirectory : Bool

/-- The paths that an event concerns, in the order in which subscribers hear of them. Events on
directories and changes that leave the content as it is concern none. -/
def FileEvent.paths (event : FileEvent) : List Path :=
  if event.isDirectory || event.change == .other then []
  else event.path :: event.destination.toList

/-- Subscribers by watched path. -/
structure WatchTable where
  subscriptions : Table Path (List Path)
  /-- The observed directories; there are some as long as the observer lives. -/
  directories : List Path

namespace WatchTable

variable {σ : Type}

/-- The table without watches. -/
def empty : WatchTable := ⟨.empty, []⟩

/-- The subscribers of a path, in the order of their paths. -/
def subscribers (table : WatchTable) (path : Path) : List Path :=
  Path.sort ((table.subscriptions.get? path).getD [])

/-- Subscribes to a path. -/
def subscribe (table : WatchTable) (path subscriber : Path) : WatchTable :=
  let known := (table.subscriptions.get? path).getD []
  { table with
    subscriptions := table.subscriptions.insert path
      (if known.contains subscriber then known else known ++ [subscriber]) }

/-- Subscribes to a path and observes its directory, if that is there and not observed yet. -/
def watch (table : WatchTable) (path subscriber : Path) (world : World σ) :
    WatchTable × World σ :=
  let table := table.subscribe path subscriber
  let directory := path.parent
  if table.directories.contains directory then (table, world)
  else if world.files.isDirectory world.host directory then
    let world := if table.directories.isEmpty then world.note .started else world
    ({ table with directories := table.directories ++ [directory] },
      world.note (.scheduled directory false))
  else (table, world)

/-- Drops all subscriptions and stops the observer. -/
def close (table : WatchTable) (world : World σ) : WatchTable × World σ :=
  if table.directories.isEmpty then (empty, world)
  else
    let world := table.directories.foldl (fun world directory =>
      world.note (.unscheduled directory)) world
    (empty, (world.note .stopped).note .joined)

/-- Tells subscribers, one after the other, that a file of theirs changed. -/
def tell (subscribers : List Path) (world : World σ) : World σ :=
  subscribers.foldl (fun world subscriber => world.note (.changed subscriber)) world

/-- Tells every subscriber of a path that it changed. -/
def dispatch (table : WatchTable) (path : Path) (world : World σ) : World σ :=
  tell (table.subscribers path) world

/-- The subscribers that a path event reaches, in order. -/
def heard (table : WatchTable) (event : FileEvent) : List Path :=
  if table.directories.isEmpty then [] else event.paths.flatMap table.subscribers

end WatchTable

end ArtifactLens
