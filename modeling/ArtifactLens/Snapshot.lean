import ArtifactLens.CommandLine.Run

/-!
# Snapshots

A description of a file system and of what happens to it, one line each. The fields of a line are
separated by tabs:

* `directory`, a modification time, a path: a directory stands at the path;
* `file`, a modification time, a path, octets in hexadecimal digits: a file stands at the path;
* `created`, `modified` or `deleted`, a path: an event on a file;
* `moved`, a path, a destination: a file was moved.

An empty line ends the description; the lines after it are what happens.
-/

namespace ArtifactLens

namespace Snapshot

/-- The octets that pairs of hexadecimal digits spell. -/
def octets? : List Char → Option Octets
  | [] => some []
  | high :: low :: rest =>
    match Digit.hexValue? high, Digit.hexValue? low, octets? rest with
    | some high, some low, some octets => some (UInt8.ofNat (16 * high + low) :: octets)
    | _, _, _ => none
  | _ => none

/-- The moment that a decimal text spells. -/
def instant? (text : String) : Option Instant := (Binary64.parse? text).bind (·.toRat?)

/-- What a line describes. -/
inductive Line where
  | node (path : Path) (node : Node)
  | event (event : FileEvent)

/-- What the fields of a line describe. -/
def Line.ofFields? : List String → Option Line
  | ["directory", modified, path] =>
    (instant? modified).map fun modified => .node (Path.ofText path) (.directory modified)
  | ["file", modified, path, digits] =>
    match instant? modified, octets? digits.toList with
    | some modified, some octets => some (.node (Path.ofText path) (.file octets modified false))
    | _, _ => none
  | ["created", path] => some (.event ⟨.created, Path.ofText path, none, false⟩)
  | ["modified", path] => some (.event ⟨.modified, Path.ofText path, none, false⟩)
  | ["deleted", path] => some (.event ⟨.deleted, Path.ofText path, none, false⟩)
  | ["moved", path, destination] =>
    some (.event ⟨.moved, Path.ofText path, some (Path.ofText destination), false⟩)
  | _ => none

/-- What a line describes, if it has one of the forms. -/
def Line.parse? (line : String) : Option Line := ofFields? (line.splitOn "\t")

/-- What happens by a line. -/
def Line.happening {σ : Type} : Line → Happening σ
  | .node path stands =>
    .outside fun world => .ok { world with files := world.files.put world.host path stands }
  | .event change => .file change

/-- Takes a line into a world that is being described. The clock of the world shows the latest
modification; events are left out. -/
def Line.describe {σ : Type} (world : World σ) : Line → World σ
  | .node path stands => { world with
      files := world.files.put world.host path stands
      clock := if world.clock < stands.modified then stands.modified else world.clock }
  | .event _ => world

end Snapshot

end ArtifactLens
