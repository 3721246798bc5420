import ArtifactLens.Shell.Pattern
import ArtifactLens.Shell.Utility.Filtering

/-!
# Translating characters

The program `tr` replaces octets by others, takes octets out, and makes runs of an octet into one. A
set of octets is written as a list of octets, ranges, classes and repetitions, whose order matters:
the members of one set are replaced by those of another one by one.
-/

namespace ArtifactLens.Shell

namespace Utility.Translating

/-! ### Sets -/

/-- An element of a set. -/
inductive Element where
  | octet (c : Char)
  | range (first last : Char)
  | named (name : String)
  | equivalent (c : Char)
  /-- An octet a number of times; without a number, as often as it is needed. -/
  | repeated (c : Char) (count : Option Nat)

/-- All octets as characters. -/
def allOctets : List Char := (List.range 256).map Char.ofNat

/-- The most times that a repeated octet is spelled out. -/
def mostRepeats : Nat := 100000

namespace Element

/-- The octets of an element, one by one. -/
def members : Element → List Char
  | .octet c => [c]
  | .range first last =>
    (List.range (last.toNat + 1 - first.toNat)).map fun n => Char.ofNat (first.toNat + n)
  | .named name => allOctets.filter (Pattern.isInClass name)
  | .equivalent c => [c]
  | .repeated c count => List.replicate (min (count.getD 0) mostRepeats) c

/-- How many octets an element has. -/
def count : Element → Nat
  | .repeated _ count => count.getD 0
  | element => element.members.length

/-- The element is one of the two classes of letters by case. -/
def isCase : Element → Bool
  | .named name => name == "upper" || name == "lower"
  | _ => false

/-- The element is a class. -/
def isClass : Element → Bool
  | .named _ => true
  | _ => false

/-- The element is repeated as often as it is needed. -/
def isOpen : Element → Bool
  | .repeated _ none => true
  | _ => false

/-- How many members elements have together. -/
def countAll (elements : List Element) : Nat :=
  elements.foldl (fun count element => count + element.count) 0

end Element

/-- An octet of a text, and whether a backslash takes its meaning away. -/
abbrev Spelled := Char × Bool

/-- Why a set cannot be used. -/
inductive Fault where
  | noClassName
  | noEquivalent
  | unknownClass (name : List Char)
  | notSingle (text : List Char)
  | badCount (text : List Char)
  | reversed (first last : Char)

/-- An octet by its number after a backslash, unless it can be shown. -/
def show' (c : Char) : List Char :=
  if 0x20 ≤ c.toNat ∧ c.toNat < 0x7f then [c] else Quoting.octal c

/-- A text with escapes for what cannot be shown. -/
def showAll (text : List Char) : String :=
  String.ofList (text.flatMap fun c =>
    if c = '\\' then ['\\', '\\']
    else
      match Quoting.escapeLetter? c.toNat with
      | some letter => ['\\', letter]
      | none => show' c)

/-- The wording of a fault of a set. -/
def Fault.message (quote : String → String) : Fault → String
  | .noClassName => "missing character class name '[::]'"
  | .noEquivalent => "missing equivalence class character '[==]'"
  | .unknownClass name => "invalid character class " ++ quote (showAll name)
  | .notSingle text => showAll text ++ ": equivalence class operand must be a single character"
  | .badCount text => "invalid repeat count " ++ quote (showAll text) ++ " in [c*n] construct"
  | .reversed first last =>
    "range-endpoints of '" ++ String.ofList (show' first) ++ "-" ++ String.ofList (show' last) ++
      "' are in reverse collating sequence order"

/-- The octets of a text whose escapes are read, and the warnings that come of it. -/
def spell : List Char → List Spelled × List String
  | [] => ([], [])
  | '\\' :: [] =>
    ([('\\', false)], ["warning: an unescaped backslash at end of string is not portable"])
  | '\\' :: c :: rest =>
    let one (d : Char) (rest' : List Spelled × List String) : List Spelled × List String :=
      ((d, true) :: rest'.1, rest'.2)
    if '0' ≤ c ∧ c ≤ '7' then
      let more := (rest.take 2).takeWhile fun d => '0' ≤ d && d ≤ '7'
      let value := Arithmetic.digitsValue 8 (c :: more)
      if value < 256 then one (Char.ofNat value) (spell (rest.drop more.length))
      else
        let text := String.ofList (c :: more)
        let start := (text.take 2).toString
        let last := (text.drop 2).toString
        let (spelled, warnings) := spell (rest.drop 1)
        ((Char.ofNat (value / 8), true) :: spelled,
          ("warning: the ambiguous octal escape \\" ++ text ++ " is being\n\tinterpreted as the " ++
            "2-byte sequence \\0" ++ start ++ ", " ++ last) :: warnings)
    else
      let d := match c with
        | 'a' => '\x07'
        | 'b' => '\x08'
        | 'f' => '\x0c'
        | 'n' => '\n'
        | 'r' => '\r'
        | 't' => '\t'
        | 'v' => '\x0b'
        | d => d
      one d (spell rest)
  | c :: rest =>
    let (spelled, warnings) := spell rest
    ((c, false) :: spelled, warnings)
  termination_by text => text.length
  decreasing_by all_goals (simp; try omega)

/-- The octet stands for itself in brackets. -/
def isPlain (c : Char) (spelled : Spelled) : Bool := spelled == (c, false)

/-- What stands before a sign and a closing bracket, and what follows them. -/
def beforeClose? (sign : Char) (done : List Spelled) :
    List Spelled → Option (List Spelled × List Spelled)
  | a :: b :: rest =>
    if isPlain sign a ∧ isPlain ']' b then some (done.reverse, rest)
    else beforeClose? sign (a :: done) (b :: rest)
  | _ => none

/-- The count of a repetition, which is octal if it begins with a zero. -/
def count? (text : List Char) : Option (Option Nat) :=
  if text.isEmpty then some none
  else
    let base := if text.head? = some '0' then 8 else 10
    let body := text.dropWhile Arithmetic.isSpace
    let body := if body.head? = some '+' then body.drop 1 else body
    if !body.isEmpty ∧ body.all fun c => '0' ≤ c ∧ c.toNat < '0'.toNat + base then
      let n := Arithmetic.digitsValue base body
      if n > 2 ^ 64 - 3 then none else some (if n = 0 then none else some n)
    else none

/-- A repetition from after its opening bracket, and what follows it. -/
def repetition? : List Spelled → Option (Except Fault (Element × List Spelled))
  | c :: star :: rest =>
    if !isPlain '*' star then none
    else
      let inner := rest.takeWhile fun spelled => !spelled.2 && spelled.1 != ']'
      match rest.drop inner.length with
      | close :: after =>
        if !isPlain ']' close then none
        else
          let digits := inner.map (·.1)
          some (match count? digits with
            | some count => .ok (.repeated c.1 count, after)
            | none => .error (.badCount digits))
      | [] => none
  | _ => none

/-- The names of classes. -/
def classNames : List String :=
  ["alnum", "alpha", "blank", "cntrl", "digit", "graph", "lower", "print", "punct", "space", "upper",
    "xdigit"]

/-- A class from after its opening bracket, and what follows it. A repetition may look like the start
of one. -/
def class? (text : List Spelled) : Option (Except Fault (Element × List Spelled)) :=
  match text with
  | sign :: rest =>
    if !(isPlain ':' sign || isPlain '=' sign) then repetition? text
    else
      match beforeClose? sign.1 [] rest with
      | none => repetition? text
      | some (inner, after) =>
        let name := inner.map (·.1)
        let looksRepeated : Bool := match rest with
          | star :: more =>
            isPlain '*' star && (more.dropWhile (·.1.isDigit)).head?.any (isPlain ']')
          | [] => false
        if sign.1 = ':' then
          if name.isEmpty then some (.error .noClassName)
          else if classNames.contains (String.ofList name) then
            some (.ok (.named (String.ofList name), after))
          else if looksRepeated then repetition? text
          else some (.error (.unknownClass name))
        else
          match name with
          | [] => some (.error .noEquivalent)
          | [c] => some (.ok (.equivalent c, after))
          | _ => if looksRepeated then repetition? text else some (.error (.notSingle name))
  | [] => none

/-- Reads the elements of a set. -/
def elementsFrom (done : List Element) :
    (measure : Nat) → List Spelled → Except Fault (List Element)
  | 0, _ => .ok done.reverse
  | _ + 1, [] => .ok done.reverse
  | measure + 1, first :: rest =>
    let plain : Except Fault (List Element) :=
      match rest with
      | dash :: last :: after =>
        if isPlain '-' dash then
          if last.1 < first.1 then .error (.reversed first.1 last.1)
          else elementsFrom (.range first.1 last.1 :: done) measure after
        else elementsFrom (.octet first.1 :: done) measure rest
      | _ => elementsFrom (.octet first.1 :: done) measure rest
    if isPlain '[' first ∧ rest.length ≥ 2 then
      match class? rest with
      | some (.ok (element, after)) => elementsFrom (element :: done) measure after
      | some (.error fault) => .error fault
      | none => plain
    else plain

/-! ### Two sets together -/

/-- Elements whose members are taken one by one. -/
structure Cursor where
  /-- The members that are left of the first element. -/
  members : List Char := []
  /-- None of them was taken yet. -/
  isNew : Bool := true
  elements : List Element

namespace Cursor

/-- The start of a list of elements, without those that have no members. -/
def start (elements : List Element) : Cursor :=
  let elements := elements.filter (!·.members.isEmpty)
  { members := ((elements.head?).map Element.members).getD [], elements }

/-- Leaves the first element. -/
def skip (cursor : Cursor) : Cursor := start (cursor.elements.drop 1)

/-- Takes a member, with the case that its element is a class of, if it is one. -/
def next? (cursor : Cursor) : Option (Char × Option String × Cursor) :=
  match cursor.members, cursor.elements with
  | c :: members, element :: _ =>
    let case? := match element with
      | .named name => if element.isCase then some name else none
      | _ => none
    some (c, case?,
      if members.isEmpty then cursor.skip else { cursor with members, isNew := false })
  | _, _ => none

end Cursor

/-- Goes through two lists of elements side by side as long as both last. Where the second one has a
class of letters by case, the first one is to have such a class too; then both are passed over at
once, and there is one pair of them. Otherwise there is no answer. -/
def pairs? (done : List ((Char × Option String) × (Char × Option String))) :
    (measure : Nat) → Cursor → Cursor →
      Option (List ((Char × Option String) × (Char × Option String)))
  | 0, _, _ => some done.reverse
  | measure + 1, a, b =>
    match a.next?, b.next? with
    | some (x, caseX, restA), some (y, caseY, restB) =>
      let done := ((x, caseX), (y, caseY)) :: done
      if caseY.isNone then pairs? done measure restA restB
      else if b.isNew ∧ !(a.isNew ∧ caseX.isSome) then none
      else pairs? done measure a.skip b.skip
    | none, some (_, caseY, _) => if caseY.isSome ∧ b.isNew then none else some done.reverse
    | _, _ => some done.reverse

/-- The octets that replace others, by octet. -/
abbrev Table := Array Char

/-- The table that changes nothing. -/
def Table.same : Table := allOctets.toArray

/-- Sets what replaces an octet. -/
def Table.put (table : Table) (old new : Char) : Table := table.setIfInBounds old.toNat new

/-- What replaces an octet. -/
def Table.at (table : Table) (c : Char) : Char := (table[c.toNat]?).getD c

/-- A set as a table by octet. -/
def setTable (members : List Char) : Array Bool :=
  members.foldl (fun table c => table.setIfInBounds c.toNat true) (Array.replicate 256 false)

/-- The octet is in a set. -/
def isIn (table : Array Bool) (c : Char) : Bool := (table[c.toNat]?).getD false

/-- The two sets of a call, and how they are meant. -/
structure Sets where
  first : List Element
  second : Option (List Element)
  complements : Bool
  truncates : Bool
  /-- The members of the first set are replaced by those of the second. -/
  translates : Bool

namespace Sets

/-- The members of elements. -/
def members (elements : List Element) : List Char := elements.flatMap Element.members

/-- The octets that the first set names. -/
def chosen (sets : Sets) : List Char :=
  let table := setTable (members sets.first)
  allOctets.filter fun c => isIn table c != sets.complements

/-- How many members the first set has. -/
def size (sets : Sets) : Nat :=
  if sets.complements then sets.chosen.length else Element.countAll sets.first

/-- The second set, where a repetition makes it as long as the first if it can. -/
def filled (sets : Sets) (second : List Element) : List Element :=
  let given := Element.countAll second
  if sets.size ≥ given ∧ second.countP Element.isOpen = 1 then
    second.map fun element =>
      match element with
      | .repeated c none => .repeated c (some (sets.size - given))
      | element => element
  else second

/-- What replaces octets, or why the sets do not fit. -/
def table (sets : Sets) (second : List Element) : Except String Table := do
  let hasClass := second.any Element.isClass
  let skipsCases := hasClass && !sets.complements
  -- Classes that are passed over count once.
  let isEquivalent : Element → Bool
    | .equivalent _ => true
    | _ => false
  if second.any isEquivalent then
    throw "[=c=] expressions may not appear in string2 when translating"
  if second.any fun element => element.isClass && !element.isCase then
    throw ("when translating, the only character classes that may appear in\nstring2 are " ++
      "'upper' and 'lower'")
  let measure := (members sets.first).length + (members second).length + 2
  let found := pairs? [] measure (.start sets.first) (.start second)
  if skipsCases ∧ found.isNone then throw "misaligned [:upper:] and/or [:lower:] construct"
  let passed := if skipsCases then
      ((found.getD []).countP fun pair => pair.2.2.isSome) * 25 else 0
  let sizeA := sets.size - passed
  let sizeB := Element.countAll second - passed
  let second ← if sizeA > sizeB ∧ !sets.truncates then
      if sizeB = 0 then throw "when not truncating set1, string2 must be non-empty"
      else
        match second.getLast? with
        | some (.named _) =>
          throw ("when translating with string1 longer than string2,\nthe latter string must not " ++
            "end with a character class")
        | some (.repeated c _) => pure (second ++ [.repeated c (some (sizeA - sizeB))])
        | some element =>
          pure (second ++ [.repeated (element.members.getLastD ' ') (some (sizeA - sizeB))])
        | none => pure second
    else pure second
  let new := members second
  if sets.complements ∧ sets.first.any Element.isClass ∧
      !(Element.countAll second = sets.size ∧ !new.isEmpty ∧ new.eraseDups.length = 1) then
    throw ("when translating with complemented character classes,\nstring2 must map all " ++
      "characters in the domain to one")
  if sets.complements then
    return (sets.chosen.zip new).foldl (fun table (old, new) => table.put old new) Table.same
  let measure := (members sets.first).length + new.length + 2
  let swap (isOld : Char → Bool) (change : Char → Char) (table : Table) : Table :=
    (allOctets.filter isOld).foldl (fun table c => table.put c (change c)) table
  return ((pairs? [] measure (.start sets.first) (.start second)).getD []).foldl
    (fun table ((old, caseA), (new, caseB)) =>
      match caseA, caseB with
      | some "lower", some "upper" => swap Char.isLower Char.toUpper table
      | some "upper", some "lower" => swap Char.isUpper Char.toLower table
      | _, _ => table.put old new) Table.same

/-- What is wrong with the sets, whatever they are for. -/
def complaint? (sets : Sets) : Option String :=
  let second := (sets.second.map sets.filled).getD []
  let open' := (sets.second.getD []).countP Element.isOpen
  if sets.first.any Element.isOpen then
    some "the [c*] repeat construct may not appear in string1"
  else if open' > 1 then some "only one [c*] repeat construct may appear in string2"
  else if sets.translates then
    match sets.table second with
    | .error complaint => some complaint
    | .ok _ => none
  else if open' > 0 then some "the [c*] construct may appear in string2 only when translating"
  else none

end Sets

/-- What is done with each octet. -/
structure Course where
  isDropped : Char → Bool := fun _ => false
  table : Table := Table.same
  /-- Runs of the octet become one. -/
  isSqueezed : Char → Bool := fun _ => false

/-- The filter that follows a course; it knows the last octet that it put out. -/
def Course.filter (course : Course) : Filter (Option Char) where
  feed := fun last piece =>
    let (last, done) := piece.toList.foldl (fun (last, done) c =>
      if course.isDropped c then (last, done)
      else
        let c := course.table.at c
        if last = some c ∧ course.isSqueezed c then (last, done) else (some c, c :: done))
      (last, ([] : List Char))
    (last, String.ofList done.reverse)

end Utility.Translating

namespace Utility

open Translating

/-- The program `tr`. -/
def tr : Utility := fun call =>
  let accepted : Accepted :=
    { letters := "AcCdst", leading := true
      names := [("complement", 'c'), ("delete", 'd'), ("squeeze-repeats", 's'),
        ("truncate-set1", 't')] }
  accepted.read call 1 fun arguments =>
    let deletes := arguments.has 'd'
    let squeezes := arguments.has 's'
    let misuse (text after : String) : Job :=
      Job.warn call text ((if after = "" then fun job => job else Job.complain (after ++ "\n"))
        (Job.complain ("Try '" ++ call.name ++ " --help' for more information.\n") (.exit 1)))
    let operands := arguments.operands
    let least := if deletes = squeezes then 2 else 1
    let most := if deletes ∧ !squeezes then 1 else 2
    if operands.isEmpty then misuse "missing operand" ""
    else if operands.length < least then
      misuse ("missing operand after " ++ call.quote (operands.getLastD ""))
        (if squeezes then "Two strings must be given when both deleting and squeezing repeats."
          else "Two strings must be given when translating.")
    else if operands.length > most then
      misuse ("extra operand " ++ call.quote (operands.getD most ""))
        (if operands.length = 2 then
          "Only one string may be given when deleting without squeezing repeats." else "")
    else
      -- Each set is warned about, and then refused if it cannot be read.
      let rec readSets (done : List (List Element)) (next : List (List Element) → Job) :
          List String → Job
        | [] => next done.reverse
        | text :: rest =>
          let (spelled, warnings) := spell text.toList
          warnings.foldr (Job.warn call)
            (match elementsFrom [] (spelled.length + 1) spelled with
            | .error fault => Job.fail call (fault.message call.quote)
            | .ok elements => readSets (elements :: done) next rest)
      readSets [] (fun all =>
        let sets : Sets :=
          { first := all.headD [], second := (all.drop 1).head?
            complements := arguments.has 'c' || arguments.has 'C'
            truncates := arguments.has 't', translates := !deletes && operands.length == 2 }
        match sets.complaint? with
        | some complaint => Job.fail call complaint
        | none =>
          let chosen := setTable sets.chosen
          let second := (sets.second.map sets.filled).getD []
          let table : Translating.Table :=
            if sets.translates then
              match sets.table second with
              | .ok table => table
              | .error _ => Translating.Table.same
            else Translating.Table.same
          let squeezed := if operands.length = 1 then chosen else setTable (Sets.members second)
          let course : Course :=
            { isDropped := fun c => deletes && isIn chosen c
              table
              isSqueezed := fun c => squeezes && isIn squeezed c }
          Filter.readOn call course.filter 0 (fun progress fault =>
              match fault with
              | none => progress.finish call
              | some fault => progress.fail call ("read error: " ++ fault.message))
            mostReads { state := none }) operands

end Utility

end ArtifactLens.Shell
