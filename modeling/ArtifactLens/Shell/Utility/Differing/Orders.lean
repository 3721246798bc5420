import ArtifactLens.Shell.Regex.Reading
import ArtifactLens.Shell.Utility.Differing.Formats

/-!
# Orders for telling files apart

What the options of `diff` ask for. A style may be asked for again, but not another one beside it
(`Choices.choose`); so it is with most options that take a value (`Choices.single`). How much context is
shown can be asked for in several ways, of which the one that asks for most wins (`Choices.contextFor`).
-/

namespace ArtifactLens.Shell

namespace Utility.Difference

/-- What is to be done about files that differ. -/
structure Orders where
  showing : Showing
  likeness : Likeness := {}
  /-- It is only told that files differ. -/
  isBrief : Bool := false
  tellsSame : Bool := false
  isRecursive : Bool := false
  /-- What the first directory lacks counts as empty. -/
  fillsFirst : Bool := false
  /-- What the second directory lacks counts as empty. -/
  fillsSecond : Bool := false
  followsLinks : Bool := true
  /-- All files are texts. -/
  areTexts : Bool := false
  /-- A return at the end of a line is left aside. -/
  sparesReturns : Bool := false
  ignoresNameCase : Bool := false
  /-- Patterns of names that are left out. -/
  excluded : List String := []
  /-- The name from which on directories are compared. -/
  start : Option String := none
  labels : Option String × Option String := (none, none)
  /-- What stands before two names in the heading of a pair of files. -/
  heading : String := "diff"
  /-- How moments are written. -/
  momentFormat : String := ""

namespace Orders

/-- A name as it is compared with others. -/
def nameKey (orders : Orders) (name : String) : String :=
  if orders.ignoresNameCase then name.map Char.toLower else name

/-- Files that are the same are passed over in silence. -/
def passesOver (orders : Orders) : Bool :=
  match orders.showing.style with
  | .formats => orders.showing.hidesCommon
  | .beside => orders.showing.sparesCommon
  | _ => true

/-- It suffices to compare octets. -/
def comparesOctets (orders : Orders) : Bool :=
  orders.isBrief && !orders.showing.isPicky && !orders.likeness.ignoresCase &&
    !orders.sparesReturns && orders.likeness.blanks == .heeded

end Orders

/-- What was asked for so far. -/
structure Choices where
  style : Option ShowStyle := none
  /-- The most context that was asked for together with a style. -/
  context : Nat := 0
  /-- It was asked for by a number. -/
  isExact : Bool := false
  /-- Context that was asked for by digits alone. -/
  digits : Option Nat := none
  /-- The option before was a digit. -/
  afterDigit : Bool := false
  width : Option Nat := none
  tabSize : Option Nat := none
  horizon : Nat := 0
  labels : List String := []
  blanks : BlankManner := .heeded
  headings : List Regex := []
  ignored : List Regex := []
  formats : GroupFormats := {}
  start : Option String := none
  fromFile : Option String := none
  toFile : Option String := none
  /-- When colours are used. -/
  colours : String := "never"

namespace Choices

/-- The options of `diff`. -/
def accepted : Accepted :=
  { letters := "0123456789abBcC:dD:eEfF:hHiI:lL:nNpPqrsS:tTuU:vwW:x:X:yZ" ++
      "β:εη:κ:δζθμ:π:ρ:ιλνυ:φ:Λ:Ξοςσ" ++ "Θ:Γ:Δ:Π:Σ"
    attached := "αγξ"
    bare := [('α', 'ω'), ('γ', 'Ψ'), ('ξ', 'Ω')]
    namesHint := true
    package := "GNU diffutils) 3.8"
    names := [("binary", 'ε'), ("brief", 'q'), ("changed-group-format", 'β'), ("color", 'α'),
      ("context", 'γ'), ("ed", 'e'), ("exclude", 'x'), ("exclude-from", 'X'), ("expand-tabs", 't'),
      ("forward-ed", 'f'), ("from-file", 'η'), ("help", Accepted.helpLetter), ("horizon-lines", 'κ'),
      ("ifdef", 'D'), ("ignore-all-space", 'w'), ("ignore-blank-lines", 'B'), ("ignore-case", 'i'),
      ("ignore-file-name-case", 'δ'), ("ignore-matching-lines", 'I'), ("ignore-space-change", 'b'),
      ("ignore-tab-expansion", 'E'), ("ignore-trailing-space", 'Z'), ("inhibit-hunk-merge", 'ζ'),
      ("initial-tab", 'T'), ("label", 'L'), ("left-column", 'θ'), ("line-format", 'μ'),
      ("minimal", 'd'), ("new-file", 'N'), ("new-group-format", 'π'), ("new-line-format", 'ρ'),
      ("no-dereference", 'ι'), ("no-ignore-file-name-case", 'λ'), ("normal", 'ν'),
      ("old-group-format", 'υ'), ("old-line-format", 'φ'), ("paginate", 'l'), ("palette", 'Λ'),
      ("rcs", 'n'), ("recursive", 'r'), ("report-identical-files", 's'), ("sdiff-merge-assist", 'Ξ'),
      ("show-c-function", 'p'), ("show-function-line", 'F'), ("side-by-side", 'y'),
      ("speed-large-files", 'H'), ("starting-file", 'S'), ("strip-trailing-cr", 'ο'),
      ("suppress-blank-empty", 'ς'), ("suppress-common-lines", 'σ'), ("tabsize", 'Θ'), ("text", 'a'),
      ("to-file", 'Γ'), ("unchanged-group-format", 'Δ'), ("unchanged-line-format", 'Π'),
      ("unidirectional-new-file", 'P'), ("unified", 'ξ'), ("width", 'W'),
      ("-presume-output-tty", 'Σ')] }

/-- The number that a text spells; with a minus it is taken from the first number that is too large. -/
def number? (text : String) : Option Nat :=
  let (isNegative, digits) := match text.toList.dropWhile Arithmetic.isSpace with
    | '-' :: rest => (true, rest)
    | '+' :: rest => (false, rest)
    | rest => (false, rest)
  if text = "" then some 0
  else if digits.isEmpty ∨ !digits.all Char.isDigit then none
  else
    let value := Digit.numeral digits
    let most := 2 ^ 64 - 1
    some (if value > most then most else if isNegative ∧ value ≠ 0 then most + 1 - value else value)

/-- Complains about the use of the program. -/
def refuse {α : Type} (call : Invocation) (text : String) : Except Job α :=
  .error (accepted.misuse call text 2)

/-- Chooses a style. -/
def choose (call : Invocation) (choices : Choices) (style : ShowStyle) : Except Job Choices :=
  if choices.style.all (· == style) then .ok { choices with style := some style }
  else refuse call "conflicting output style options"

/-- Takes a value that must be the same wherever it is given. -/
def single (call : Invocation) (option : String) (before : Option String) (value : String) :
    Except Job (Option String) :=
  if before.all (· == value) then .ok (some value)
  else refuse call ("conflicting " ++ option ++ " option value '" ++ value ++ "'")

/-- Leaves more blanks aside, unless more are left aside already. -/
def spare (choices : Choices) (manner : BlankManner) : Choices :=
  let blanks := match manner, choices.blanks with
    | .trailing, .tabs | .tabs, .trailing => .tabsAndTrailing
    | manner, before => if before.rank < manner.rank then manner else before
  { choices with blanks }

/-- Reads an expression. -/
def regexOf (call : Invocation) (text : String) : Except Job Regex :=
  match Regex.parse .searchBasic (call.glyphs text.toList) with
  | .ok reading => .ok reading.regex
  | .error fault => .error (Job.fail call (text ++ ": " ++ fault.message) 2)

/-- Takes a size that must be the same wherever it is given. -/
def size (call : Invocation) (what : String) (before : Option Nat) (conflict value : String) :
    Except Job (Option Nat) :=
  match (number? value).filter (0 < ·) with
  | none => refuse call ("invalid " ++ what ++ " '" ++ value ++ "'")
  | some size =>
    if before.all (· == size) then .ok (some size)
    else .error (Job.fail call ("conflicting " ++ conflict ++ " options") 2)

/-- Asks for context together with a style. -/
def surround (call : Invocation) (choices : Choices) (style : ShowStyle) (context : Nat)
    (isExact : Bool) : Except Job Choices := do
  let choices ← choices.choose call style
  return { choices with
    context := max choices.context context, isExact := choices.isExact || isExact }

/-- Formats of groups of lines that only hold for one setting of a name. -/
def setting (call : Invocation) (choices : Choices) (name : String) : Except Job Choices := do
  let choices ← choices.choose call .formats
  let formats := choices.formats
  let single := single call "-D"
  let unchanged ← single formats.unchangedGroup "%="
  let old ← single formats.oldGroup ("#ifndef " ++ name ++ "\n%<#endif /* ! " ++ name ++ " */\n")
  let new ← single formats.newGroup ("#ifdef " ++ name ++ "\n%>#endif /* " ++ name ++ " */\n")
  let changed ← single formats.changedGroup
    ("#ifndef " ++ name ++ "\n%<#else /* " ++ name ++ " */\n%>#endif /* " ++ name ++ " */\n")
  return { choices with formats := { formats with
    unchangedGroup := unchanged, oldGroup := old, newGroup := new, changedGroup := changed } }

/-- Takes one format of a group or of a line. -/
def format (call : Invocation) (choices : Choices) (letter : Char) (value : String) :
    Except Job Choices := do
  let choices ← choices.choose call .formats
  let formats := choices.formats
  let take (option : String) (before : Option String) (put : Option String → GroupFormats) :
      Except Job GroupFormats := (single call option before value).map put
  let formats ← match letter with
    | 'β' => take "--changed-group-format" formats.changedGroup ({ formats with changedGroup := · })
    | 'π' => take "--new-group-format" formats.newGroup ({ formats with newGroup := · })
    | 'υ' => take "--old-group-format" formats.oldGroup ({ formats with oldGroup := · })
    | 'Δ' =>
      take "--unchanged-group-format" formats.unchangedGroup ({ formats with unchangedGroup := · })
    | 'ρ' => take "--new-line-format" formats.newLine ({ formats with newLine := · })
    | 'φ' => take "--old-line-format" formats.oldLine ({ formats with oldLine := · })
    | 'Π' =>
      take "--unchanged-line-format" formats.unchangedLine ({ formats with unchangedLine := · })
    | _ => do
      let single := single call "--line-format"
      let unchanged ← single formats.unchangedLine value
      let old ← single formats.oldLine value
      let new ← single formats.newLine value
      pure { formats with unchangedLine := unchanged, oldLine := old, newLine := new }
  return { choices with formats }

/-- Takes one more option. -/
def add (call : Invocation) (choices : Choices) (option : Char × String) : Except Job Choices := do
  let (letter, value) := option
  let afterDigit := choices.afterDigit
  let choices := { choices with afterDigit := letter.isDigit }
  let exactly (style : ShowStyle) : Except Job Choices :=
    match number? value with
    | some context => choices.surround call style context true
    | none => refuse call ("invalid context length '" ++ value ++ "'")
  match letter with
  | 'C' | 'γ' => exactly .context
  | 'U' | 'ξ' => exactly .unified
  | 'Ψ' => choices.surround call .context 3 true
  | 'Ω' => choices.surround call .unified 3 true
  | 'c' => choices.surround call .context 3 false
  | 'u' => choices.surround call .unified 3 false
  | 'e' => choices.choose call .editor
  | 'f' => choices.choose call .forward
  | 'n' => choices.choose call .counted
  | 'y' | 'Ξ' => choices.choose call .beside
  | 'ν' => choices.choose call .normal
  | 'D' => choices.setting call value
  | 'β' | 'π' | 'υ' | 'Δ' | 'ρ' | 'φ' | 'Π' | 'μ' => choices.format call letter value
  | 'b' => return choices.spare .amounts
  | 'Z' => return choices.spare .trailing
  | 'E' => return choices.spare .tabs
  | 'w' => return choices.spare .all
  | 'F' => return { choices with headings := (← regexOf call value) :: choices.headings }
  | 'p' =>
    return { choices with headings := (← regexOf call "^[[:alpha:]$_]") :: choices.headings }
  | 'I' => return { choices with ignored := (← regexOf call value) :: choices.ignored }
  | 'L' =>
    if choices.labels.length ≥ 2 then .error (Job.fail call "too many file label options" 2)
    else return { choices with labels := choices.labels ++ [value] }
  | 'S' => return { choices with start := ← single call "-S" choices.start value }
  | 'η' => return { choices with fromFile := ← single call "--from-file" choices.fromFile value }
  | 'Γ' => return { choices with toFile := ← single call "--to-file" choices.toFile value }
  | 'W' => return { choices with width := ← size call "width" choices.width "width" value }
  | 'Θ' => return { choices with tabSize := ← size call "tabsize" choices.tabSize "tabsize" value }
  | 'κ' =>
    match number? value with
    | some horizon => return { choices with horizon := max choices.horizon horizon }
    | none => refuse call ("invalid horizon length '" ++ value ++ "'")
  | 'ω' => return { choices with colours := "auto" }
  | 'α' =>
    if ["auto", "always", "never"].contains value then return { choices with colours := value }
    else refuse call ("invalid color '" ++ value ++ "'")
  | 'v' => .error (Job.answer call "diff (GNU diffutils) 3.8\n")
  | letter =>
    if letter.isDigit then
      let before := if afterDigit then choices.digits.getD 0 else 0
      return { choices with digits := some (10 * before + (letter.toNat - '0'.toNat)) }
    else return choices

/-- The context that is shown in a style. -/
def contextFor (choices : Choices) (style : ShowStyle) : Nat :=
  let context := if choices.style.isNone ∧ style = .context ∧ choices.digits.isNone then 3
    else choices.context
  match choices.digits with
  | some digits =>
    let isWanted := style = .context ∨ style = .unified
    if isWanted ∧ (context < digits ∨ (digits < context ∧ !choices.isExact)) then digits else context
  | none => context

/-- The orders that choices give. -/
def orders (choices : Choices) (call : Invocation) (arguments : Arguments) : Orders :=
  let has := arguments.has
  let style := choices.style.getD (if has 'p' then .context else .normal)
  let context := choices.contextFor style
  let tabSize := choices.tabSize.getD 8
  let isColored := choices.colours == "always" ||
    (choices.colours == "auto" && has 'Σ' && call.value? "TERM" != some "dumb")
  let heading : Option Regex := match choices.headings with
    | [] => none
    | first :: rest => some (rest.foldl Regex.either first)
  let isPlainTime := style == .context && Invocation.isPlainPlace (call.place "LC_TIME")
  let showing : Showing :=
    { call, style, context, tabSize, isColored, heading, expandsTabs := has 't'
      startsWithTab := has 'T', sparesBlank := has 'ς', ignoresEmpty := has 'B'
      blanks := choices.blanks, ignored := choices.ignored, width := choices.width.getD 130
      leftColumn := has 'θ', sparesCommon := has 'σ'
      formats := if style = .formats then choices.formats.filled else choices.formats }
  let likeness : Likeness :=
    { ignoresCase := has 'i', blanks := choices.blanks, tabSize
      heedsEnd := style != .editor && style != .forward
      horizon := max choices.horizon context, isShort := has 'd' }
  { showing, likeness, isBrief := has 'q', tellsSame := has 's', isRecursive := has 'r'
    fillsFirst := has 'N' || has 'P', fillsSecond := has 'N', followsLinks := !has 'ι'
    areTexts := has 'a', sparesReturns := has 'ο'
    ignoresNameCase := (arguments.last? ['δ', 'λ']).any (·.1 == 'δ')
    excluded := arguments.values 'x', start := choices.start
    labels := (choices.labels[0]?, choices.labels[1]?)
    momentFormat := if isPlainTime then "%a %b %e %T %Y" else "%Y-%m-%d %H:%M:%S.%N %z" }

end Choices

end Utility.Difference

end ArtifactLens.Shell
