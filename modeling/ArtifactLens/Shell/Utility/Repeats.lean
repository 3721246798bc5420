import ArtifactLens.Shell.Utility.Choice
import ArtifactLens.Shell.Utility.Filtering
import ArtifactLens.Shell.Utility.Sorting.Key

/-!
# Repeated lines

The program `uniq` compares each line with the one before it, and puts out the first line of each group of
lines that are the same, or only those that are repeated or that are not, or all of them by groups.
-/

namespace ArtifactLens.Shell

namespace Utility

/-! ### Options -/

/-- Where groups are set apart by an empty line. -/
inductive Apart where
  | nowhere
  | before
  | after
  | between
  | around
  deriving DecidableEq

/-- What of a line is compared, and what is put out. -/
structure Repeats where
  fields : Nat := 0
  /-- The number of fields was given by digits alone, or else by an option. -/
  areFieldsOld : Option Bool := none
  chars : Nat := 0
  most : Option Nat := none
  foldsCase : Bool := false
  counts : Bool := false
  /-- Lines are put out that are not repeated. -/
  showsSingle : Bool := true
  /-- The first line of a group is put out, if it is repeated. -/
  showsFirst : Bool := true
  /-- The lines after it are put out. -/
  showsLater : Bool := false
  /-- Where repeated lines are set apart. -/
  apart : Apart := .nowhere
  /-- Where groups are set apart, if all lines are put out. -/
  grouping : Option Apart := none
  choosesLines : Bool := false
  mark : Char := '\n'
  names : List String := []

namespace Repeats

/-- How repeated lines are set apart, by name. -/
def apartChoice : Choice Apart where
  option := "--all-repeated"
  words := [("none", .nowhere), ("prepend", .before), ("separate", .between)]

/-- How groups are set apart, by name. -/
def groupingChoice : Choice Apart where
  option := "--group"
  words := [("prepend", .before), ("append", .after), ("separate", .between), ("both", .around)]

/-- What a word chooses. -/
def choose (call : Invocation) (choice : Choice Apart) (none : Apart) (word : String) :
    Except Job Apart :=
  if word = "" then .ok none
  else
    match choice.meaning word with
    | .ok meaning => .ok meaning
    | .error fault => .error (Job.misuse call (choice.complaint call word fault))

/-- The number that a text spells. -/
def number (call : Invocation) (complaint text : String) : Except Job Nat :=
  match SortKey.number? text.toList with
  | some (n, []) => .ok n
  | _ => .error (Job.fail call (text ++ ": " ++ complaint))

/-- The number that a text with a plus in front spells. -/
def plus? (text : String) : Option Nat :=
  match text.toList, SortKey.number? text.toList with
  | '+' :: _, some (n, []) => if n < 2 ^ 64 - 1 then some n else none
  | _, _ => none

/-- Takes the name of a file, of which there are two at most. -/
def withName (call : Invocation) (repeats : Repeats) (name : String) : Except Job Repeats :=
  if repeats.names.length = 2 then .error (Job.misuse call ("extra operand " ++ call.quote name))
  else .ok { repeats with names := repeats.names ++ [name] }

/-- The letter of other arguments among the options. -/
def operandLetter : Char := '•'

/-- What is asked for with another option. -/
def add (call : Invocation) (repeats : Repeats) (option : Char × String) : Except Job Repeats := do
  let (letter, text) := option
  if letter = operandLetter then
    match plus? text with
    | some n => return { repeats with chars := n }
    | none => repeats.withName call text
  else if letter.isDigit then
    let before := if repeats.areFieldsOld = some false then 0 else repeats.fields
    return { repeats with
      fields := min (10 * before + (letter.toNat - '0'.toNat)) (2 ^ 64 - 1)
      areFieldsOld := some true }
  else
    match letter with
    | 'c' => return { repeats with counts := true, choosesLines := true }
    | 'd' => return { repeats with showsSingle := false, choosesLines := true }
    | 'D' | 'Δ' =>
      let apart ← choose call apartChoice .nowhere text
      return { repeats with showsSingle := false, showsLater := true, apart, choosesLines := true }
    | 'γ' => return { repeats with grouping := some (← choose call groupingChoice .between text) }
    | 'f' =>
      let fields ← number call "invalid number of fields to skip" text
      return { repeats with fields, areFieldsOld := some false }
    | 's' => return { repeats with chars := ← number call "invalid number of bytes to skip" text }
    | 'w' =>
      return { repeats with most := some (← number call "invalid number of bytes to compare" text) }
    | 'i' => return { repeats with foldsCase := true }
    | 'u' => return { repeats with showsFirst := false, choosesLines := true }
    | 'z' => return { repeats with mark := '\x00' }
    | _ => return repeats

/-- What is asked for by arguments. -/
def ofArguments (call : Invocation) (arguments : Arguments) : Except Job Repeats := do
  let repeats ← arguments.options.foldlM (add call) {}
  -- Those behind a double dash are names in any case.
  let early := arguments.options.countP (·.1 == operandLetter)
  (arguments.operands.drop early).foldlM (withName call) repeats

/-- What is wrong with options that do not go together. -/
def clash? (repeats : Repeats) : Option String :=
  if repeats.grouping.isSome ∧ repeats.choosesLines then
    some "--group is mutually exclusive with -c/-d/-D/-u"
  else if repeats.counts ∧ repeats.showsLater then
    some "printing all duplicated lines and repeat counts is meaningless"
  else none

/-! ### Groups -/

/-- The part of a line that is compared. -/
def part (repeats : Repeats) (line : String) : List Char :=
  let rest := (dropFields none repeats.fields line.toList).drop repeats.chars
  let rest := match repeats.most with
    | some count => rest.take count
    | none => rest
  if repeats.foldsCase then rest.map Char.toUpper else rest

/-- How far the lines have been read: the line that the next one is compared with, how many lines after
it were the same, and whether a group came before. -/
structure Reading where
  last : Option (String × List Char) := none
  same : Nat := 0
  hasGroup : Bool := false

/-- A line, with its count if counts are asked for. -/
def line (repeats : Repeats) (count : Nat) (text : String) : String :=
  ((if repeats.counts then right 7 (toString count) ++ " " else "") ++ text).push repeats.mark

/-- The line that is kept, if it is one to be put out; `isFollowed` tells that the next one is the
same. -/
def kept (repeats : Repeats) (reading : Reading) (isFollowed : Bool) : String :=
  let shows := if reading.same = 0 then repeats.showsSingle
    else if isFollowed then repeats.showsLater else repeats.showsFirst
  match reading.last with
  | some (text, _) => if shows then repeats.line (reading.same + 1) text else ""
  | none => ""

/-- Takes a line where all groups are put out: the first line of each, or all of them set apart. -/
def stepGroups (repeats : Repeats) (reading : Reading) (text : String) : Reading × String :=
  let part := repeats.part text
  let isNew := reading.last.all fun last => last.2 != part
  let gap : Bool := match repeats.grouping with
    | some .before | some .around => isNew
    | some .after | some .between => isNew && reading.hasGroup
    | _ => false
  let shown := isNew || repeats.grouping.isSome
  ({ last := if shown then some (text, part) else reading.last, hasGroup := true },
    (if gap then String.singleton repeats.mark else "") ++
      if shown then text.push repeats.mark else "")

/-- Takes a line where some of the lines are put out. -/
def stepLines (repeats : Repeats) (reading : Reading) (text : String) : Reading × String :=
  let part := repeats.part text
  match reading.last with
  | none => ({ reading with last := some (text, part) }, "")
  | some last =>
    let isSame := last.2 == part
    let same := reading.same + (if isSame then 1 else 0)
    let hasGroup := reading.hasGroup || (!isSame && same != 0)
    let gap := isSame && same == 1 &&
      (repeats.apart == .before || (repeats.apart == .between && reading.hasGroup))
    let reading := { reading with same, hasGroup }
    let start := if gap then String.singleton repeats.mark else ""
    if !isSame || repeats.showsLater then
      ({ reading with last := some (text, part), same := if isSame then same else 0 },
        start ++ repeats.kept reading isSame)
    else (reading, start)

/-- All groups are put out. -/
def showsGroups (repeats : Repeats) : Bool :=
  repeats.showsSingle && repeats.showsFirst && !repeats.counts

/-- What is put out behind the last line. -/
def finish (repeats : Repeats) (reading : Reading) : String :=
  if repeats.showsGroups then
    if reading.hasGroup ∧ (repeats.grouping = some .after ∨ repeats.grouping = some .around) then
      String.singleton repeats.mark
    else ""
  else repeats.kept reading false

/-- The filter of lines. -/
def filter (repeats : Repeats) : Filter (Reading × String) :=
  let step := if repeats.showsGroups then repeats.stepGroups else repeats.stepLines
  let lines : Filter (Reading × String) :=
    .ofLines repeats.mark fun reading line => step reading line.text
  { lines with
    close := fun state =>
      let (state, text) := lines.close state
      (state, text ++ repeats.finish state.1) }

end Repeats

/-- The program `uniq`. -/
def uniq : Utility := fun call =>
  let accepted : Accepted :=
    { letters := "0123456789cdDf:is:uw:zΔγ", attached := "Δγ"
      operandLetter := some Repeats.operandLetter
      names := [("count", 'c'), ("repeated", 'd'), ("all-repeated", 'Δ'), ("group", 'γ'),
        ("ignore-case", 'i'), ("unique", 'u'), ("skip-fields", 'f'), ("skip-chars", 's'),
        ("check-chars", 'w'), ("zero-terminated", 'z')] }
  accepted.read call 1 (fun arguments =>
    match Repeats.ofArguments call arguments with
    | .error refusal => refusal
    | .ok repeats =>
      match repeats.clash? with
      | some text => Job.misuse call text
      | none =>
        let source := repeats.names.headD "-"
        let target := repeats.names.getD 1 "-"
        let refuse (name : String) (fault : SystemFault) : Job :=
          Job.fail call (call.quoteTitle name ++ ": " ++ fault.message)
        let run (descriptor : Nat) : Job :=
          Filter.readOn call repeats.filter descriptor (fun progress fault =>
            match fault with
            | none => progress.exit call 0
            | some fault =>
              progress.fail call ("error reading " ++ call.quoteName source ++ ": " ++ fault.message))
            mostReads { state := ({}, "") }
        let turn (descriptor : Nat) : Job :=
          if target = "-" then run descriptor
          else
            .open target { writes := true, creates := true, truncates := true } fun opened =>
              match opened with
              | .ok output => .direct 1 output (run descriptor)
              | .error fault => refuse target fault
        if source = "-" then turn 0
        else
          .open source { reads := true } fun opened =>
            match opened with
            | .ok descriptor => turn descriptor
            | .error fault => refuse source fault)
    fun arguments job =>
      match arguments.options.foldlM (Repeats.add call) ({} : Repeats) with
      | .error refusal => refusal
      | .ok _ => job

end Utility

end ArtifactLens.Shell
