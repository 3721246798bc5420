import ArtifactLens.Shell.Utility.Basic

/-!
# What changed between two sequences

Two sequences of lines are compared by the classes of their lines: marks tell which lines of the first
are gone in the second, and which lines of the second are new. Lines that match nothing, or nearly
everything, are set aside at first (`settle`). For the rest a shortest way from one sequence to the
other is sought from both ends at once (`Search.compare`). Then runs of marks move to where they meet
(`Shift.run`), and changes are read off the marks (`changes`).
-/

namespace ArtifactLens.Shell

namespace Utility.Difference

/-! ### Setting lines aside -/

/-- How a line stands to the lines of the other sequence. -/
inductive Standing where
  /-- It may match one of them. -/
  | shared
  /-- It matches so many that this tells little. -/
  | doubtful
  /-- It matches none. -/
  | lone
  deriving DecidableEq

/-- A value, doubled for every factor of four in a number but the first. -/
def doubled (value n : Nat) : Nat :=
  if n / 4 = 0 then value else doubled (2 * value) (n / 4)
  termination_by n
  decreasing_by omega

/-- A doubtful line counts as one that may match. -/
def Standing.trusted : Standing → Standing
  | .doubtful => .shared
  | other => other

/-- Trusts doubtful lines of which many follow each other. -/
def trustRuns (least : Nat) (run : List Standing) : List Standing :=
  (run.splitBy fun one other => one == other).flatMap fun group =>
    if group.length ≥ least then group.map Standing.trusted else group

/-- Trusts doubtful lines at the start, up to three lone lines in a row, or to the first lone line after
eight. -/
def trustStart (place row : Nat) : List Standing → List Standing
  | [] => []
  | .lone :: rest =>
    if place ≥ 8 ∨ row = 2 then .lone :: rest else .lone :: trustStart (place + 1) (row + 1) rest
  | _ :: rest => .shared :: trustStart (place + 1) 0 rest

/-- Decides on the doubtful lines of a run that begins and ends with a lone line. -/
def settleCore (run : List Standing) : List Standing :=
  if (run.filter (· == .doubtful)).length * 4 > run.length then run.map Standing.trusted
  else
    let run := trustStart 0 0 (trustRuns (doubled 1 (run.length / 4) + 1) run)
    (trustStart 0 0 run.reverse).reverse

/-- Decides on the doubtful lines of a run without any shared ones. -/
def settleRun (run : List Standing) : List Standing :=
  let start := run.takeWhile (· != .lone)
  let rest := (run.drop start.length).reverse
  let stop := rest.takeWhile (· != .lone)
  start.map Standing.trusted ++ settleCore (rest.drop stop.length).reverse ++
    stop.map Standing.trusted

/-- Decides on all doubtful lines; the lone lines that are left, and the doubtful ones among them, are
set aside. -/
def settle (standings : List Standing) : List Standing :=
  (standings.splitBy fun one other => (one == .shared) == (other == .shared)).flatMap fun run =>
    if run.head? = some .shared then run else settleRun run

/-- How often each class occurs. -/
def counts (classes : Array Nat) (size : Nat) : Array Nat :=
  classes.foldl (fun counts c => counts.modify c (· + 1)) (Array.replicate size 0)

/-- How the lines of one sequence stand to the other, in which classes occur so often. -/
def standings (classes : Array Nat) (others : Array Nat) : List Standing :=
  let many := doubled 5 (classes.size / 64)
  classes.toList.map fun c =>
    let count := others.getD c 0
    if count = 0 then .lone else if count > many then .doubtful else .shared

/-! ### The search -/

/-- The sequences that are compared, and how far the search may go before it is content with less than the
shortest way. -/
structure Search where
  first : Array Nat
  second : Array Nat
  patience : Nat

/-- A part of both sequences. -/
structure Area where
  left : Int
  right : Int
  top : Int
  bottom : Int

/-- How far the search has come on each diagonal, from the start and from the end. -/
structure Fronts where
  forward : Array Int
  backward : Array Int
  /-- What is added to a diagonal for its place. -/
  base : Int

namespace Fronts

/-- How far the search from the start has come on a diagonal. -/
def ahead (fronts : Fronts) (d : Int) : Int := fronts.forward.getD (d + fronts.base).toNat 0

/-- How far the search from the end has come on a diagonal. -/
def behind (fronts : Fronts) (d : Int) : Int := fronts.backward.getD (d + fronts.base).toNat 0

/-- Notes how far the search from the start has come. -/
def setAhead (fronts : Fronts) (d x : Int) : Fronts :=
  { fronts with forward := fronts.forward.setIfInBounds (d + fronts.base).toNat x }

/-- Notes how far the search from the end has come. -/
def setBehind (fronts : Fronts) (d x : Int) : Fronts :=
  { fronts with backward := fronts.backward.setIfInBounds (d + fronts.base).toNat x }

end Fronts

/-- A point that a way leads through, and whether its halves are to be shortest ones. -/
structure Midpoint where
  x : Int
  y : Int
  isShortBefore : Bool := true
  isShortAfter : Bool := true

/-- The diagonals that a search has reached. -/
structure Reach where
  least : Int
  most : Int

namespace Search

/-- Beyond all places. -/
def farthest : Int := 2 ^ 62

/-- The lines at two places are of one class. -/
def agrees (search : Search) (x y : Int) : Bool :=
  search.first.getD x.toNat 0 == search.second.getD y.toNat 0

/-- Goes forward along a diagonal for as long as lines agree. -/
def slideAhead (search : Search) (area : Area) : (measure : Nat) → Int → Int → Int
  | 0, x, _ => x
  | measure + 1, x, y =>
    if x < area.right ∧ y < area.bottom ∧ search.agrees x y then
      slideAhead search area measure (x + 1) (y + 1)
    else x

/-- Goes back along a diagonal for as long as lines agree. -/
def slideBehind (search : Search) (area : Area) : (measure : Nat) → Int → Int → Int
  | 0, x, _ => x
  | measure + 1, x, y =>
    if area.left < x ∧ area.top < y ∧ search.agrees (x - 1) (y - 1) then
      slideBehind search area measure (x - 1) (y - 1)
    else x

/-- How many steps along a diagonal there can be. -/
def Area.steps (area : Area) : Nat := (area.right - area.left).toNat

/-- A step of the search from the start on some diagonals, of which `d` is the next one. It ends where the
search from the end is met. -/
def stepAhead (search : Search) (area : Area) (met : Option Reach) :
    (measure : Nat) → Int → Fronts → Fronts × Option Midpoint
  | 0, _, fronts => (fronts, none)
  | measure + 1, d, fronts =>
    let low := fronts.ahead (d - 1)
    let high := fronts.ahead (d + 1)
    let start := if low < high then high else low + 1
    let x := search.slideAhead area (Area.steps area) start (start - d)
    let fronts := fronts.setAhead d x
    let isMet := match met with
      | some reach => reach.least ≤ d && d ≤ reach.most && fronts.behind d ≤ x
      | none => false
    if isMet then (fronts, some { x, y := x - d }) else stepAhead search area met measure (d - 2) fronts

/-- A step of the search from the end on some diagonals, of which `d` is the next one. It ends where the
search from the start is met. -/
def stepBehind (search : Search) (area : Area) (met : Option Reach) :
    (measure : Nat) → Int → Fronts → Fronts × Option Midpoint
  | 0, _, fronts => (fronts, none)
  | measure + 1, d, fronts =>
    let low := fronts.behind (d - 1)
    let high := fronts.behind (d + 1)
    let start := if low < high then low else high - 1
    let x := search.slideBehind area (Area.steps area) start (start - d)
    let fronts := fronts.setBehind d x
    let isMet := match met with
      | some reach => reach.least ≤ d && d ≤ reach.most && x ≤ fronts.ahead d
      | none => false
    if isMet then (fronts, some { x, y := x - d }) else stepBehind search area met measure (d - 2) fronts

/-- Widens the diagonals that the search from the start has reached, as far as there are any. -/
def widenAhead (reach : Reach) (least most : Int) (fronts : Fronts) : Reach × Fronts :=
  let (low, fronts) := if reach.least > least then
      (reach.least - 1, fronts.setAhead (reach.least - 2) (-1))
    else (reach.least + 1, fronts)
  let (high, fronts) := if reach.most < most then
      (reach.most + 1, fronts.setAhead (reach.most + 2) (-1))
    else (reach.most - 1, fronts)
  (⟨low, high⟩, fronts)

/-- Widens the diagonals that the search from the end has reached, as far as there are any. -/
def widenBehind (reach : Reach) (least most : Int) (fronts : Fronts) : Reach × Fronts :=
  let (low, fronts) := if reach.least > least then
      (reach.least - 1, fronts.setBehind (reach.least - 2) farthest)
    else (reach.least + 1, fronts)
  let (high, fronts) := if reach.most < most then
      (reach.most + 1, fronts.setBehind (reach.most + 2) farthest)
    else (reach.most - 1, fronts)
  (⟨low, high⟩, fronts)

/-- The diagonals of a reach, every other one, from the last. -/
def diagonals (reach : Reach) : List Int :=
  if reach.most < reach.least then []
  else (List.range (((reach.most - reach.least) / 2).toNat + 1)).map fun (n : Nat) =>
    reach.most - 2 * (n : Int)

/-- The point to which the search has come farthest from either end. -/
def farthestPoint (area : Area) (fronts : Fronts) (ahead behind : Reach) : Midpoint :=
  let (forwardSum, forwardX) := (diagonals ahead).foldl (fun (sum, best) d =>
    let x := min (fronts.ahead d) area.right
    let y := x - d
    let (x, y) := if area.bottom < y then (area.bottom + d, area.bottom) else (x, y)
    if sum < x + y then (x + y, x) else (sum, best)) ((-1 : Int), (0 : Int))
  let (backwardSum, backwardX) := (diagonals behind).foldl (fun (sum, best) d =>
    let x := max area.left (fronts.behind d)
    let y := x - d
    let (x, y) := if y < area.top then (area.top + d, area.top) else (x, y)
    if x + y < sum then (x + y, x) else (sum, best)) (farthest, (0 : Int))
  if (area.right + area.bottom) - backwardSum < forwardSum - (area.left + area.top) then
    { x := forwardX, y := forwardSum - forwardX, isShortAfter := false }
  else { x := backwardX, y := backwardSum - backwardX, isShortBefore := false }

/-- Seeks a point in the middle of a way, by steps from both ends of ever greater cost. -/
def middleFrom (search : Search) (area : Area) (isShort : Bool) (cost : Nat) (ahead behind : Reach) :
    (measure : Nat) → Fronts → Midpoint × Fronts
  | 0, fronts => ({ x := area.right, y := area.top }, fronts)
  | measure + 1, fronts =>
    let least := area.left - area.bottom
    let most := area.right - area.top
    let odd := ((area.left - area.top) - (area.right - area.bottom)) % 2 ≠ 0
    let count (reach : Reach) : Nat :=
      if reach.most < reach.least then 0 else ((reach.most - reach.least) / 2).toNat + 1
    let (ahead, fronts) := widenAhead ahead least most fronts
    match search.stepAhead area (if odd then some behind else none) (count ahead) ahead.most fronts with
    | (fronts, some point) => (point, fronts)
    | (fronts, none) =>
      let (behind, fronts) := widenBehind behind least most fronts
      match search.stepBehind area (if odd then none else some ahead) (count behind) behind.most
          fronts with
      | (fronts, some point) => (point, fronts)
      | (fronts, none) =>
        if !isShort ∧ cost ≥ search.patience then (farthestPoint area fronts ahead behind, fronts)
        else middleFrom search area isShort (cost + 1) ahead behind measure fronts

/-- A point in the middle of a way through an area. -/
def middle (search : Search) (area : Area) (isShort : Bool) (fronts : Fronts) : Midpoint × Fronts :=
  let start := area.left - area.top
  let stop := area.right - area.bottom
  let fronts := (fronts.setAhead start area.left).setBehind stop area.right
  let measure := (area.right - area.left + (area.bottom - area.top)).toNat + 2
  search.middleFrom area isShort 1 ⟨start, start⟩ ⟨stop, stop⟩ measure fronts

end Search

/-- The marks of lines that changed. -/
structure Marks where
  first : Array Bool
  second : Array Bool

namespace Marks

/-- Marks lines of the first sequence, from one place up to another. -/
def markFirst (marks : Marks) (start stop : Int) : Marks :=
  { marks with first := (List.range (stop - start).toNat).foldl (fun first n =>
      first.setIfInBounds (start.toNat + n) true) marks.first }

/-- Marks lines of the second sequence, from one place up to another. -/
def markSecond (marks : Marks) (start stop : Int) : Marks :=
  { marks with second := (List.range (stop - start).toNat).foldl (fun second n =>
      second.setIfInBounds (start.toNat + n) true) marks.second }

end Marks

namespace Search

/-- Marks what changed in an area. -/
def compare (search : Search) : (measure : Nat) → Area → Bool → Marks × Fronts → Marks × Fronts
  | 0, _, _, done => done
  | measure + 1, area, isShort, (marks, fronts) =>
    let steps := (area.right - area.left).toNat
    let left := search.slideAhead area steps area.left area.top
    let area := { area with left, top := area.top + (left - area.left) }
    let right := search.slideBehind area steps area.right area.bottom
    let area := { area with right, bottom := area.bottom - (area.right - right) }
    if area.left = area.right then (marks.markSecond area.top area.bottom, fronts)
    else if area.top = area.bottom then (marks.markFirst area.left area.right, fronts)
    else
      let (point, fronts) := search.middle area isShort fronts
      let done := compare search measure { area with right := point.x, bottom := point.y }
        point.isShortBefore (marks, fronts)
      compare search measure { area with left := point.x, top := point.y } point.isShortAfter done

end Search

/-! ### Moving runs of marks -/

/-- The first place without a mark, from a given one on. -/
def nextClear (marks : Array Bool) : (measure : Nat) → Nat → Nat
  | 0, place => place
  | measure + 1, place => if marks.getD place false then nextClear marks measure (place + 1) else place

/-- The last place without a mark before a given one. -/
def lastClear (marks : Array Bool) : Nat → Nat
  | 0 => 0
  | place + 1 => if marks.getD place false then lastClear marks place else place

/-- The start of the run of marks that ends before a place. -/
def runStart (marks : Array Bool) : Nat → Nat
  | 0 => 0
  | place + 1 => if marks.getD place false then runStart marks place else place + 1

/-- A run of marks that moves. -/
structure Shift where
  marks : Array Bool
  start : Nat
  stop : Nat
  /-- The place in the other sequence that the end of the run stands beside. -/
  beside : Nat
  /-- The last end of the run at which it stands beside a run of the other sequence. -/
  meeting : Nat

namespace Shift

/-- Moves the run back for as long as the line before it is of the class of its last one. -/
def back (classes : Array Nat) (other : Array Bool) : (measure : Nat) → Shift → Shift
  | 0, shift => shift
  | measure + 1, shift =>
    if 0 < shift.start ∧ classes.getD (shift.start - 1) 0 = classes.getD (shift.stop - 1) 0 then
      let marks := (shift.marks.setIfInBounds (shift.start - 1) true).setIfInBounds
        (shift.stop - 1) false
      let start := runStart marks (shift.start - 1)
      back classes other measure
        { shift with marks, start, stop := shift.stop - 1, beside := lastClear other shift.beside }
    else shift

/-- Moves the run forward for as long as the line after it is of the class of its first one. -/
def forth (classes : Array Nat) (other : Array Bool) : (measure : Nat) → Shift → Shift
  | 0, shift => shift
  | measure + 1, shift =>
    if shift.stop < classes.size ∧ classes.getD shift.start 0 = classes.getD shift.stop 0 then
      let marks := (shift.marks.setIfInBounds shift.start false).setIfInBounds shift.stop true
      let stop := nextClear marks (classes.size + 1) (shift.stop + 1)
      let beside := nextClear other (other.size + 1) (shift.beside + 1)
      forth classes other measure
        { marks, start := shift.start + 1, stop, beside
          meeting := if beside = shift.beside + 1 then shift.meeting else stop }
    else shift

/-- Moves the run back and forth until it has not grown. -/
def merge (classes : Array Nat) (other : Array Bool) : (measure : Nat) → Shift → Shift
  | 0, shift => shift
  | measure + 1, shift =>
    let length := shift.stop - shift.start
    let shift := shift.back classes other (classes.size + 1)
    let meets := 0 < shift.beside && other.getD (shift.beside - 1) false
    let shift := { shift with meeting := if meets then shift.stop else classes.size }
    let shift := shift.forth classes other (classes.size + 1)
    if shift.stop - shift.start = length then shift else merge classes other measure shift

/-- Moves the run back to where it stands beside a run of the other sequence. -/
def meet (other : Array Bool) : (measure : Nat) → Shift → Shift
  | 0, shift => shift
  | measure + 1, shift =>
    if shift.meeting < shift.stop then
      let marks := (shift.marks.setIfInBounds (shift.start - 1) true).setIfInBounds
        (shift.stop - 1) false
      meet other measure { shift with
        marks, start := shift.start - 1, stop := shift.stop - 1
        beside := lastClear other shift.beside }
    else shift

/-- The start of the next run of marks from a place on, with the place beside it. -/
def nextRun (marks other : Array Bool) (size : Nat) : (measure : Nat) → Nat → Nat → Nat × Nat
  | 0, place, beside => (place, beside)
  | measure + 1, place, beside =>
    if place < size ∧ !marks.getD place false then
      nextRun marks other size measure (place + 1) (nextClear other (other.size + 1) beside + 1)
    else (place, beside)

/-- Moves all runs of marks of one sequence, from a place on. -/
def run (classes : Array Nat) (other : Array Bool) :
    (measure : Nat) → Nat → Nat → Array Bool → Array Bool
  | 0, _, _, marks => marks
  | measure + 1, place, beside, marks =>
    let size := classes.size
    let (start, beside) := nextRun marks other size (size + 1) place beside
    if start ≥ size then marks
    else
      let stop := nextClear marks (size + 1) (start + 1)
      let beside := nextClear other (other.size + 1) beside
      let shift : Shift := { marks, start, stop, beside, meeting := size }
      let shift := (shift.merge classes other (size + 1)).meet other (size + 1)
      run classes other measure shift.stop shift.beside shift.marks

end Shift

/-! ### The whole -/

/-- A change: so many lines of the first sequence from a place on are gone, and there are so many new lines
in the second one from a place on. -/
structure Change where
  line0 : Nat
  deleted : Nat
  line1 : Nat
  inserted : Nat
  deriving Repr, DecidableEq

/-- The changes that marks tell of, from two places on. -/
def changesFrom (marks : Marks) : (measure : Nat) → Nat → Nat → List Change
  | 0, _, _ => []
  | measure + 1, i, j =>
    if i ≥ marks.first.size ∧ j ≥ marks.second.size then []
    else if marks.first.getD i false ∨ marks.second.getD j false then
      let iStop := nextClear marks.first (marks.first.size + 1) i
      let jStop := nextClear marks.second (marks.second.size + 1) j
      ⟨i, iStop - i, j, jStop - j⟩ :: changesFrom marks measure iStop jStop
    else changesFrom marks measure (i + 1) (j + 1)

/-- A power of two that is about the root of a number. -/
def roughRoot (value n : Nat) : Nat :=
  if n = 0 then value else roughRoot (2 * value) (n / 4)
  termination_by n
  decreasing_by omega

/-- The marks of two sequences of classes below a number. With `isShort` no line is set aside, and there are
no fewer marks than need be. -/
def marksOf (isShort : Bool) (classCount : Nat) (first second : Array Nat) : Marks :=
  let aside (classes others : Array Nat) : List Bool :=
    (settle (standings classes (counts others classCount))).map (· != .shared)
  let (asideFirst, asideSecond) := (aside first second, aside second first)
  let kept (aside : List Bool) : Array Nat :=
    (aside.zipIdx.filterMap fun (isAside, place) =>
      if isAside ∧ !isShort then none else some place).toArray
  let (keptFirst, keptSecond) := (kept asideFirst, kept asideSecond)
  let search : Search := {
    first := keptFirst.map fun place => first.getD place 0
    second := keptSecond.map fun place => second.getD place 0
    patience := max 4096 (roughRoot 1 (keptFirst.size + keptSecond.size + 3)) }
  let size := keptFirst.size + keptSecond.size + 5
  let fronts : Fronts := {
    forward := Array.replicate size 0, backward := Array.replicate size 0
    base := (keptSecond.size : Int) + 2 }
  let clear (count : Nat) : Array Bool := Array.replicate count false
  let (found, _) := search.compare size ⟨0, keptFirst.size, 0, keptSecond.size⟩ isShort
    (⟨clear keptFirst.size, clear keptSecond.size⟩, fronts)
  let whole (aside : List Bool) (kept : Array Nat) (marks : Array Bool) : Array Bool :=
    let start := (aside.map fun isAside => isAside && !isShort).toArray
    (kept.toList.zip marks.toList).foldl (fun all (place, mark) =>
      if mark then all.setIfInBounds place true else all) start
  let firstMarks := whole asideFirst keptFirst found.first
  let secondMarks := whole asideSecond keptSecond found.second
  let firstMarks := Shift.run first secondMarks (first.size + 1) 0 0 firstMarks
  let secondMarks := Shift.run second firstMarks (second.size + 1) 0 0 secondMarks
  ⟨firstMarks, secondMarks⟩

/-- The changes between two sequences of classes. -/
def changes (isShort : Bool) (classCount : Nat) (first second : Array Nat) : List Change :=
  let marks := marksOf isShort classCount first second
  changesFrom marks (first.size + second.size + 2) 0 0

end Utility.Difference

end ArtifactLens.Shell
