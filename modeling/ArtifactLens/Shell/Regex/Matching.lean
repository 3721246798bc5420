import ArtifactLens.Shell.Regex.Basic

/-!
# Matching

Matching moves a list of positions through an expression, all of them at once and the preferred
ones first; of all ends that are reached from a place, the last one is the match. An expression that
asks for a repetition of what a group matched keeps positions with different groups apart.
-/

namespace ArtifactLens.Shell

namespace Regex

/-- A text under an expression, and how it is looked at. -/
structure Subject where
  chars : Array Nat
  ignoresCase : Bool := false
  /-- The text begins where a line does. -/
  startsLine : Bool := true
  /-- The character at which lines begin and end within the text too. -/
  lineMark : Option Nat := none

/-- A position, with what groups have matched so far, the latest first. -/
structure Spot where
  position : Nat
  groups : List (Nat × Nat × Nat) := []

/-- The character is a member of a set. -/
def isMember (subject : Subject) (members : List RegexMember) (c : Nat) : Bool :=
  let holds (c : Nat) : Bool := members.any fun member =>
    match member with
    | .range first last => first ≤ c && c ≤ last
    | .named name => isInClass name c
  holds c || (subject.ignoresCase && holds (otherCase c))

/-- Two characters are the same under a subject. -/
def isSame (subject : Subject) (a b : Nat) : Bool :=
  a == b || (subject.ignoresCase && otherCase a == b)

/-- Whether a word character stands before and after a position. -/
def edges (subject : Subject) (position : Nat) : Bool × Bool :=
  let before := position > 0 && (subject.chars[position - 1]?).any isWordChar
  (before, (subject.chars[position]?).any isWordChar)

/-- The expression asks for a repetition of what a group matched. -/
def looksBack : Regex → Bool
  | .both first second => looksBack first || looksBack second
  | .either first second => looksBack first || looksBack second
  | .repeated body _ _ => looksBack body
  | .group _ body => looksBack body
  | .again _ => true
  | _ => false

/-- Keeps the first of the spots that are alike: those with one position, and if groups matter
with the same groups. -/
def unique (keepsGroups : Bool) (spots : List Spot) : List Spot :=
  match spots with
  | [] | [_] => spots
  | _ =>
    (spots.foldl (fun (done, seen) spot =>
      let key : Nat × List (Nat × Nat × Nat) :=
        (spot.position, if keepsGroups then spot.groups else [])
      if seen.contains key then (done, seen) else (spot :: done, key :: seen))
      (([] : List Spot), ([] : List (Nat × List (Nat × Nat × Nat))))).1.reverse

/-- Spots whose character fits a test move on by one. -/
def advance (subject : Subject) (fits : Nat → Bool) (spots : List Spot) : List Spot :=
  spots.filterMap fun spot =>
    match subject.chars[spot.position]? with
    | some c => if fits c then some { spot with position := spot.position + 1 } else none
    | none => none

/-- Repeats a move; `done` are the spots after the least number of repetitions on, the latest
first. Only spots that were not reached before go on. -/
def rounds (move : List Spot → List Spot) (keepsGroups : Bool) (least : Nat) (most : Option Nat)
    (count : Nat) (seen : List Nat) (done : List Spot) :
    (measure : Nat) → List Spot → List Spot
  | 0, _ => done
  | measure + 1, spots =>
    let done := if count ≥ least then spots ++ done else done
    if spots.isEmpty ∨ most.any (count ≥ ·) then done
    else
      let next := unique keepsGroups (move spots)
      let isFresh (spot : Spot) : Bool :=
        count < least || keepsGroups || !seen.contains spot.position
      let next := next.filter isFresh
      let next := if keepsGroups ∧ count ≥ least then
          next.filter fun spot => !spots.any (·.position == spot.position) else next
      rounds move keepsGroups least most (count + 1) (next.map (·.position) ++ seen) done measure next

/-- Moves spots through an expression. -/
def move (subject : Subject) (keepsGroups : Bool) : Regex → List Spot → List Spot
  | .empty, spots => spots
  | .char c, spots => advance subject (isSame subject c) spots
  | .any, spots => advance subject (· < OctetText.strayBase) spots
  | .oneOf negated members, spots =>
    advance subject (fun c => isMember subject members c != negated && c < OctetText.strayBase) spots
  | .both first second, spots =>
    match move subject keepsGroups first spots with
    | [] => []
    | spots => move subject keepsGroups second spots
  | .either first second, spots =>
    unique keepsGroups
      (move subject keepsGroups first spots ++ move subject keepsGroups second spots)
  | .repeated body least most, spots =>
    let measure := subject.chars.size + least + 2
    unique keepsGroups <| spots.flatMap fun spot =>
      rounds (move subject keepsGroups body) keepsGroups least most 0 [spot.position] [] measure
        [spot]
  | .group number body, spots =>
    unique keepsGroups <| spots.flatMap fun spot =>
      (move subject keepsGroups body [spot]).map fun after =>
        { after with groups := (number, spot.position, after.position) :: after.groups }
  | .lineStart, spots => spots.filter fun spot =>
      (spot.position == 0 && subject.startsLine) ||
        (spot.position > 0 && subject.lineMark.any (subject.chars[spot.position - 1]? == some ·))
  | .lineEnd, spots => spots.filter fun spot =>
      spot.position == subject.chars.size ||
        subject.lineMark.any (subject.chars[spot.position]? == some ·)
  | .textStart, spots => spots.filter fun spot => spot.position == 0 && subject.startsLine
  | .textEnd, spots => spots.filter fun spot => spot.position == subject.chars.size
  | .wordStart, spots => spots.filter fun spot => edges subject spot.position == (false, true)
  | .wordEnd, spots => spots.filter fun spot => edges subject spot.position == (true, false)
  | .wordEdge, spots => spots.filter fun spot =>
      let (before, after) := edges subject spot.position
      before != after
  | .noWordEdge, spots => spots.filter fun spot =>
      let (before, after) := edges subject spot.position
      before == after
  | .again number, spots => spots.filterMap fun spot =>
      match spot.groups.find? (·.1 == number) with
      | none => none
      | some (_, first, last) =>
        let size := last - first
        let same := (List.range size).all fun i =>
          match subject.chars[first + i]?, subject.chars[spot.position + i]? with
          | some a, some b => isSame subject a b
          | _, _ => false
        if same then some { spot with position := spot.position + size } else none

/-- All ends of matches that begin at a position. -/
def ends (regex : Regex) (subject : Subject) (start : Nat) : List Spot :=
  move subject regex.looksBack regex [⟨start, []⟩]

/-- The last end among spots; of equal ones the first. -/
def furthest (spots : List Spot) : Option Spot :=
  spots.foldl (fun best spot =>
    match best with
    | none => some spot
    | some old => if spot.position > old.position then some spot else best) none

/-- Whether a match can begin with a character; `none` if it can begin with any or be empty. -/
def firstChar? : Regex → Option Nat
  | .char c => some c
  | .both first _ => firstChar? first
  | .group _ body => firstChar? body
  | .repeated body least _ => if least = 0 then none else firstChar? body
  | _ => none

/-- The first match from a position on: where it begins, and its end. -/
def searchFrom (regex : Regex) (subject : Subject) (accepts : Nat → Spot → Bool) :
    (measure : Nat) → (start : Nat) → Option (Nat × Spot)
  | 0, _ => none
  | measure + 1, start =>
    if start > subject.chars.size then none
    else
      let canBegin := match firstChar? regex, subject.chars[start]? with
        | some c, some d => isSame subject c d
        | some _, none => false
        | none, _ => true
      let found := if canBegin then
          furthest ((ends regex subject start).filter (accepts start)) else none
      match found with
      | some spot => some (start, spot)
      | none => searchFrom regex subject accepts measure (start + 1)

/-- The first match from a position on that is accepted. -/
def search (regex : Regex) (subject : Subject) (start : Nat)
    (accepts : Nat → Spot → Bool := fun _ _ => true) : Option (Nat × Spot) :=
  searchFrom regex subject accepts (subject.chars.size + 2 - start) start

end Regex

end ArtifactLens.Shell
