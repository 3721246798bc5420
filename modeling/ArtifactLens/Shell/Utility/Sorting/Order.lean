import ArtifactLens.Shell.Utility.Sorting.Value

/-!
# Order of lines

Lines stand in order by their keys, one key after another, and where all keys are the same by the whole
lines. `SortOrder.sort` brings lines into order, `SortOrder.merge` puts inputs together that are in order,
and `SortOrder.disorder?` finds the first line that is not.
-/

namespace ArtifactLens.Shell

namespace Utility

/-- How lines are ordered. -/
structure SortOrder where
  keys : List SortKey := []
  separator : Option Char := none
  /-- Lines whose keys are the same stay as they stand. -/
  isStable : Bool := false
  /-- Of lines that are the same only the first one is kept. -/
  unique : Bool := false
  /-- The order of whole lines is turned around. -/
  reversed : Bool := false
  /-- Texts are compared by the rules of a place. -/
  isLocal : Bool := false
  /-- What digests begin with. -/
  seed : String := ""

/-- A line with the values of its keys. -/
structure KeyedLine where
  text : String
  chars : List Char
  values : List (Bool × KeyValue)

namespace SortOrder

/-- The line with the values of its keys. -/
def keyed (order : SortOrder) (text : String) : KeyedLine :=
  let chars := text.toList
  { text, chars
    values := order.keys.map fun key =>
      (key.manner.reversed,
        key.manner.value order.seed order.isLocal (key.part order.separator chars)) }

/-- Compares the values of keys. -/
def compareValues : List (Bool × KeyValue) → List (Bool × KeyValue) → Ordering
  | (reversed, x) :: a, (_, y) :: b =>
    match x.compare y with
    | .eq => compareValues a b
    | other => if reversed then other.swap else other
  | _, _ => .eq

/-- Compares two lines. -/
def compare (order : SortOrder) (a b : KeyedLine) : Ordering :=
  let byKeys := compareValues a.values b.values
  if byKeys != .eq || (!order.keys.isEmpty && (order.isStable || order.unique)) then byKeys
  else
    let whole := compareTexts a.chars b.chars
    if order.reversed then whole.swap else whole

/-- Drops lines that are the same as the one kept before them; `kept` holds those kept so far, in
reverse. -/
def dropRepeated (order : SortOrder) (lines : List KeyedLine) : List KeyedLine :=
  (lines.foldl (fun kept line =>
    match kept with
    | last :: _ => if order.compare last line == .eq then kept else line :: kept
    | [] => [line]) []).reverse

/-- The texts of lines, without those that repeat another if they are to be unique. -/
def texts (order : SortOrder) (lines : List KeyedLine) : List String :=
  (if order.unique then order.dropRepeated lines else lines).map (·.text)

/-- Brings lines into order. -/
def sort (order : SortOrder) (lines : List String) : List String :=
  order.texts ((lines.map order.keyed).mergeSort fun a b => order.compare a b != .gt)

/-- Puts the first lines of two inputs in front of `done`, which is in reverse, until one is over. -/
def mergeTwo (order : SortOrder) (done : List KeyedLine) :
    List KeyedLine → List KeyedLine → List KeyedLine
  | [], rest => done.reverse ++ rest
  | rest, [] => done.reverse ++ rest
  | a :: as, b :: bs =>
    if order.compare a b == .gt then mergeTwo order (b :: done) (a :: as) bs
    else mergeTwo order (a :: done) as (b :: bs)
  termination_by as bs => as.length + bs.length

/-- Puts inputs together that are in order. -/
def merge (order : SortOrder) (inputs : List (List String)) : List String :=
  order.texts <| (inputs.map (·.map order.keyed)).foldl (order.mergeTwo []) []

/-- The first line that is not in order, with its number; `number` is that of the first line. -/
def disorder? (order : SortOrder) : (number : Nat) → List KeyedLine → Option (Nat × String)
  | number, a :: b :: rest =>
    match order.compare a b with
    | .gt => some (number + 1, b.text)
    | .eq => if order.unique then some (number + 1, b.text)
      else order.disorder? (number + 1) (b :: rest)
    | .lt => order.disorder? (number + 1) (b :: rest)
  | _, _ => none

end SortOrder

end Utility

end ArtifactLens.Shell
