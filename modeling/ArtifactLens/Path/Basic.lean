/-!
# Paths

A path is an anchor and a list of names. The anchor tells a relative path from one that starts at
a root; exactly two leading slashes are a root of their own. Reading a text drops repeated slashes
and single dots, so a name is never empty, never `.` and holds no slash; `..` is a name.

`normalize` resolves `..` by its neighbours alone, and `wayTo` spells the way from one absolute
path to another. `Path.Before` orders paths component by component, a root being a component of
its own.
-/

namespace ArtifactLens

/-- The text of a path component other than a root. -/
def IsName (text : String) : Prop :=
  text ≠ "" ∧ text ≠ "." ∧ '/' ∉ text.toList

instance (text : String) : Decidable (IsName text) :=
  inferInstanceAs (Decidable (_ ∧ _ ∧ _))

/-- A path component other than a root. -/
structure Name where
  text : String
  isName : IsName text
  deriving DecidableEq

namespace Name

/-- The name with a given text, if it is one. -/
def ofText? (text : String) : Option Name :=
  if h : IsName text then some ⟨text, h⟩ else none

/-- The name `..`, which stands for the directory above. -/
def isUp (name : Name) : Bool := name.text == ".."

/-- The name `..`. -/
def up : Name := ⟨"..", by decide⟩

/-- The text from the last dot of a name on; empty when that dot is its first or last
character, or when there is none. -/
def suffix (name : Name) : String :=
  let tail := (name.text.toList.reverse.takeWhile (· != '.')).reverse
  let stem := name.text.length - tail.length - 1
  if tail.length < name.text.length ∧ 0 < stem ∧ tail ≠ [] then String.ofList ('.' :: tail)
  else ""

end Name

/-- Where a path starts. -/
inductive Anchor where
  /-- At the directory it is used in. -/
  | here
  /-- At the root. -/
  | root
  /-- At the root that two slashes name. -/
  | doubleRoot
  deriving DecidableEq, Repr

namespace Anchor

/-- The text of an anchor. -/
def text : Anchor → String
  | .here => ""
  | .root => "/"
  | .doubleRoot => "//"

/-- The anchor starts at a root. -/
def isRooted : Anchor → Bool
  | .here => false
  | .root | .doubleRoot => true

/-- The anchor that a text starts with. -/
@[grind =]
def ofText : List Char → Anchor
  | '/' :: '/' :: '/' :: _ => .root
  | '/' :: '/' :: _ => .doubleRoot
  | '/' :: _ => .root
  | _ => .here

end Anchor

/-- A path: where it starts, and the names to follow. -/
structure Path where
  anchor : Anchor
  names : List Name
  deriving DecidableEq

namespace Path

/-- Cuts a text at every slash. The accumulator holds the piece being read, in reverse. -/
@[grind =]
def piecesFrom (piece : List Char) : List Char → List (List Char)
  | [] => [piece.reverse]
  | c :: rest =>
    if c = '/' then piece.reverse :: piecesFrom [] rest else piecesFrom (c :: piece) rest

/-- The path that a text spells. -/
def ofText (text : String) : Path where
  anchor := .ofText text.toList
  names := (piecesFrom [] text.toList).filterMap fun piece => Name.ofText? (String.ofList piece)

/-- The text of a path: names joined by slashes, and a dot for the empty relative path. -/
def text (path : Path) : String :=
  let spelled := path.anchor.text ++ String.intercalate "/" (path.names.map Name.text)
  if spelled = "" then "." else spelled

instance : Repr Path := ⟨fun path _ => repr path.text⟩
instance : Inhabited Path := ⟨⟨.here, []⟩⟩

/-- The path starts at a root. -/
def isAbsolute (path : Path) : Bool := path.anchor.isRooted

/-- Follows a second path after a first; a path that starts at a root replaces the first. -/
def join (first second : Path) : Path :=
  if second.isAbsolute then second else { first with names := first.names ++ second.names }

/-- The path one step up: its last name dropped. -/
def parent (path : Path) : Path := { path with names := path.names.dropLast }

/-- The suffix of the last name; a path without names has none. -/
def suffix (path : Path) : String :=
  match path.names.getLast? with
  | some name => name.suffix
  | none => ""

/-! ### Normal form -/

/-- Follows one name from the directory that a stack of names leads to, the top of the stack being
the last name. At a root, `..` stays there. -/
def follow (rooted : Bool) (stack : List Name) (name : Name) : List Name :=
  if name.isUp then
    match stack with
    | [] => if rooted then [] else [name]
    | top :: below => if top.isUp then name :: top :: below else below
  else name :: stack

/-- The path with every `..` resolved that follows a name, or follows the root. -/
def normalize (path : Path) : Path :=
  { path with names := (path.names.foldl (follow path.isAbsolute) []).reverse }

/-- The first names of two lists that agree, and what remains of each. -/
def divide : List Name → List Name → List Name × List Name
  | a :: as, b :: bs => if a = b then divide as bs else (a :: as, b :: bs)
  | as, bs => (as, bs)

/-- The way from a directory to a path, both in normal form and rooted; the two kinds of root
count as one. -/
def wayTo (directory path : Path) : Path :=
  let (away, toward) := divide directory.names path.names
  ⟨.here, away.map (fun _ => Name.up) ++ toward⟩

/-! ### Order -/

/-- The components of a path as texts, a root being the first. -/
def components (path : Path) : List String :=
  (if path.isAbsolute then [path.anchor.text] else []) ++ path.names.map Name.text

/-- The path comes before another, component by component. -/
def Before (a b : Path) : Prop := a.components < b.components

instance (a b : Path) : Decidable (Before a b) :=
  inferInstanceAs (Decidable (_ < _))

/-- The paths of a list in order of their components. -/
def sort (paths : List Path) : List Path :=
  paths.mergeSort fun a b => !decide (Before b a)

end Path

end ArtifactLens
