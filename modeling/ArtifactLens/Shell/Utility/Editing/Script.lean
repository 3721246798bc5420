import ArtifactLens.Shell.Regex.Matching

/-!
# Editing scripts

What a script for editing a stream says: commands, each for the lines that its addresses select.
A script has faults (`Editing.Fault`) at places in the texts that it is given by.
-/

namespace ArtifactLens.Shell

namespace Utility.Editing

/-- An expression of a script; without one it stands for the last that was used. -/
structure Pattern where
  regex : Option Regex
  ignoresCase : Bool := false
  /-- Lines begin and end within a text too. -/
  hasLines : Bool := false
  groups : Nat := 9
  /-- The expression is an address: a replacement cannot name groups that it lacks. -/
  isAddress : Bool := false

/-- A place in the input. -/
inductive Address where
  | line (number : Nat)
  | last
  | pattern (pattern : Pattern)
  /-- A line and every so many lines after it. -/
  | step (first step : Nat)
  | anywhere

/-- Where a range of lines ends. -/
inductive RangeEnd where
  | at (address : Address)
  /-- So many lines later. -/
  | after (count : Nat)
  /-- At the next line whose number is a multiple. -/
  | multiple (number : Nat)

/-- How the letters of a replacement are changed. -/
inductive CaseChange where
  | upper
  | lower
  | upperNext
  | lowerNext
  | none
  deriving DecidableEq

/-- A piece of a replacement. -/
inductive Piece where
  | text (text : List Char)
  | group (number : Nat)
  | change (change : CaseChange)

/-- A substitution. -/
structure Substitution where
  pattern : Pattern
  replacement : List Piece
  /-- The first match that is replaced. -/
  nth : Nat := 1
  /-- All later matches are replaced too. -/
  everywhere : Bool := false
  /-- The result is run as a command, whose output takes its place. -/
  runs : Bool := false
  prints : Bool := false
  /-- The result is put out before it is run. -/
  printsFirst : Bool := false
  file : Option String := none

/-- What is done with a text of a script. -/
inductive TextUse where
  | append
  | insert
  | change
  | run
  deriving DecidableEq

/-- What a command does. -/
inductive Action where
  | openBlock
  | closeBlock
  | number
  | withText (use : TextUse) (text : String)
  | label (name : String)
  | branch (label : String)
  | branchIfChanged (label : String)
  | branchUnlessChanged (label : String)
  | delete
  | deleteFirst
  | print
  | printFirst
  | next
  | appendNext
  | hold
  | appendHold
  | get
  | appendGet
  | exchange
  | clear
  | nameInput
  | list (width : Option Nat)
  | quit (status : Nat) (silently : Bool)
  | readFile (name : String)
  | readLine (name : String)
  | writeFile (name : String)
  | writeFirst (name : String)
  | substitute (substitution : Substitution)
  | replace (old new : List Nat)
  /-- A letter that is read but stands for nothing. -/
  | vacant (letter : Char)

/-- A command with its addresses. -/
structure Command where
  first : Option Address := none
  last : Option RangeEnd := none
  negated : Bool := false
  action : Action

/-- Why a script is refused. -/
inductive Fault where
  | unexpectedComma
  | relativeFirst
  | lineZero
  | manyNegations
  | missingCommand
  | unknownCommand (letter : Char)
  | addressedComment
  | addressedLabel
  | addressedBrace
  | unexpectedBrace
  | unmatchedBrace
  | oneAddress
  | extraCharacters
  | missingText
  | missingLabel
  | missingFile
  | unterminatedPattern
  | unterminatedSubstitution
  | unterminatedExchange
  | unequalLengths
  | wideDelimiter
  | unknownFlag
  | manyPrints
  | manyGlobals
  | manyNumbers
  | zeroNumber
  | missingGroup (number : Nat)
  | flagsWithoutPattern
  | noPreviousPattern
  | newerEdition
  | recursiveEscape
  | forbidden
  | regex (message : String)
  deriving DecidableEq, Repr

/-- The wording of a fault. -/
def Fault.message : Fault → String
  | .unexpectedComma => "unexpected \x60,'"
  | .relativeFirst => "invalid usage of +N or ~N as first address"
  | .lineZero => "invalid usage of line address 0"
  | .manyNegations => "multiple \x60!'s"
  | .missingCommand => "missing command"
  | .unknownCommand letter => "unknown command: \x60" ++ String.singleton letter ++ "'"
  | .addressedComment => "comments don't accept any addresses"
  | .addressedLabel => ": doesn't want any addresses"
  | .addressedBrace => "\x60\x7d' doesn't want any addresses"
  | .unexpectedBrace => "unexpected \x60\x7d'"
  | .unmatchedBrace => "unmatched \x60\x7b'"
  | .oneAddress => "command only uses one address"
  | .extraCharacters => "extra characters after command"
  | .missingText => "expected \\ after \x60a', \x60c' or \x60i'"
  | .missingLabel => "\":\" lacks a label"
  | .missingFile => "missing filename in r/R/w/W commands"
  | .unterminatedPattern => "unterminated address regex"
  | .unterminatedSubstitution => "unterminated \x60s' command"
  | .unterminatedExchange => "unterminated \x60y' command"
  | .unequalLengths => "strings for \x60y' command are different lengths"
  | .wideDelimiter => "delimiter character is not a single-byte character"
  | .unknownFlag => "unknown option to \x60s'"
  | .manyPrints => "multiple \x60p' options to \x60s' command"
  | .manyGlobals => "multiple \x60g' options to \x60s' command"
  | .manyNumbers => "multiple number options to \x60s' command"
  | .zeroNumber => "number option to \x60s' command may not be zero"
  | .missingGroup number =>
    "invalid reference \\" ++ toString number ++ " on \x60s' command's RHS"
  | .flagsWithoutPattern => "cannot specify modifiers on empty regexp"
  | .noPreviousPattern => "no previous regular expression"
  | .newerEdition => "expected newer version of sed"
  | .recursiveEscape => "recursive escaping after \\c not allowed"
  | .forbidden => "e/r/w commands disabled in sandbox mode"
  | .regex message => message

/-- A text that a script is given by. -/
inductive Origin where
  | expression (number : Nat)
  | file (name : String)

/-- A place in a script: how many characters of an expression were read, or in which line of a file
it is. -/
structure Place where
  origin : Origin
  count : Nat
  line : Nat

/-- What is told of a fault at a place. -/
def Place.tell (place : Place) (fault : Fault) : String :=
  match place.origin with
  | .expression number =>
    "-e expression #" ++ toString number ++ ", char " ++ toString place.count ++ ": " ++
      fault.message
  | .file name =>
    "file " ++ name ++ " line " ++ toString place.line ++ ": " ++ fault.message

/-- The labels that jumps name. -/
def Action.target? : Action → Option String
  | .branch name | .branchIfChanged name | .branchUnlessChanged name =>
    if name = "" then none else some name
  | _ => none

/-- The file that a command puts out before the first line. -/
def Command.startFile? (command : Command) : Option String :=
  match command.first, command.last, command.action with
  | some (.line 0), none, .readFile name => some name
  | _, _, _ => none

end Utility.Editing

end ArtifactLens.Shell
