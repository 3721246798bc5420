import ArtifactLens.Text.Digit

/-!
# Versions

The order of names that hold numbers: words are compared letter by letter and numbers by their value,
so that `a9` comes before `a10`. Suffixes such as `.tar.gz` count only where the rest is the same,
and names that begin with a dot come first.
-/

namespace ArtifactLens.Shell

namespace Version

/-- The rank of a character among words: a tilde before the end, the end before digits, letters
before everything else. -/
def rank : Option Char → Int
  | none => -1
  | some c =>
    if c.isDigit then 0
    else if c.isAlpha then c.toNat
    else if c = '~' then -2
    else (c.toNat : Int) + 256

/-- Compares the words at the start of two texts; gives what follows them if they are the same. -/
def compareWords : (measure : Nat) → List Char → List Char → Ordering × List Char × List Char
  | 0, a, b => (.eq, a, b)
  | measure + 1, a, b =>
    let goesOn (text : List Char) : Bool := text.head?.any (!·.isDigit)
    if goesOn a || goesOn b then
      let order := compare (rank a.head?) (rank b.head?)
      if order != .eq then (order, a, b) else compareWords measure (a.drop 1) (b.drop 1)
    else (.eq, a, b)

/-- Compares words and numbers by turns. -/
def compareParts : (measure : Nat) → List Char → List Char → Ordering
  | 0, _, _ => .eq
  | measure + 1, a, b =>
    if a.isEmpty ∧ b.isEmpty then .eq
    else
      let (order, a, b) := compareWords (a.length + b.length + 1) a b
      if order != .eq then order
      else
        let x := a.takeWhile Char.isDigit
        let y := b.takeWhile Char.isDigit
        let order := compare (Digit.numeral x) (Digit.numeral y)
        if order != .eq then order
        else compareParts measure (a.drop x.length) (b.drop y.length)

/-- The text begins with a suffix: a dot and a letter or a tilde, with letters, digits and tildes
after them. -/
def suffixLength (text : List Char) : Nat :=
  match text with
  | '.' :: c :: rest =>
    if c.isAlpha ∨ c = '~' then 2 + (rest.takeWhile fun d => d.isAlphanum || d == '~').length else 0
  | _ => 0

/-- The length of a text without the suffixes at its end; its first character belongs to none. -/
def stemLength (text : List Char) : Nat :=
  let rec go (position stem : Nat) : (measure : Nat) → List Char → Nat
    | 0, _ => stem
    | _ + 1, [] => stem
    | measure + 1, _ :: rest =>
      let rec skip (position : Nat) : (measure : Nat) → List Char → Nat × List Char
        | 0, text => (position, text)
        | measure + 1, text =>
          match suffixLength text with
          | 0 => (position, text)
          | length => skip (position + length) measure (text.drop length)
      let (next, after) := skip (position + 1) (rest.length + 1) rest
      -- Suffixes that lead to the end do not belong to the stem.
      if after.isEmpty then position + 1 else go next (position + 1) measure after
  go 0 0 (text.length + 1) text

/-- Compares versions. -/
def order (a b : List Char) : Ordering :=
  match a, b with
  | [], [] => .eq
  | [], _ => .lt
  | _, [] => .gt
  | '.' :: restA, '.' :: restB =>
    if restA = [] then (if restB = [] then .eq else .lt)
    else if restB = [] then .gt
    else if restA = ['.'] then (if restB = ['.'] then .eq else .lt)
    else if restB = ['.'] then .gt
    else parts
  | '.' :: _, _ => .lt
  | _, '.' :: _ => .gt
  | _, _ => parts
where
  /-- The order of the stems, or that of the whole texts if those are the same. -/
  parts : Ordering :=
    let measure := a.length + b.length + 2
    let first := compareParts measure (a.take (stemLength a)) (b.take (stemLength b))
    if first != .eq then first else compareParts measure a b

/-- Whether a version comes before another, or is the same. -/
def isBefore (a b : String) : Bool :=
  match order a.toList b.toList with
  | .lt => true
  | .gt => false
  | .eq => a ≤ b

end Version

end ArtifactLens.Shell
