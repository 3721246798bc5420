import ArtifactLens.Shell.Utility.Editing.Editor

/-!
# Editing a stream

The program `sed`: every line of the input passes through a script, which changes it in the
pattern space, keeps texts in the hold space, and says what is put out. `Editing.Editor.run` carries
the script out; lines, files and other programs are asked for when a command wants them.
-/

namespace ArtifactLens.Shell

namespace Utility

namespace Editing

namespace Editor

/-! ### Which lines are meant -/

/-- Goes on with the expression that a pattern stands for, which is remembered. -/
def withPattern (manner : Manner) (editor : Editor) (pattern : Pattern)
    (next : Editor → Pattern → Regex → Job) : Job :=
  let used := if pattern.regex.isSome then some pattern else editor.lastPattern
  match used, used.bind (·.regex) with
  | some used, some regex => next { editor with lastPattern := some used } used regex
  | _, _ => editor.panic manner (manner.script.start.tell .noPreviousPattern) 1

/-- A text under an expression. -/
def subjectOf (manner : Manner) (pattern : Pattern) (text : String) : Regex.Subject :=
  { chars := (manner.glyphs text).toArray, ignoresCase := pattern.ignoresCase
    lineMark := if pattern.hasLines then some manner.separator.toNat else none }

/-- Tells whether an address means the line in hand. -/
def whetherAt (manner : Manner) (editor : Editor) (address : Address)
    (next : Editor → Bool → Job) : Job :=
  match address with
  | .line number => next editor (editor.number == max 1 number)
  | .last => editor.whetherLast manner next mostInputs
  | .pattern pattern =>
    editor.withPattern manner pattern fun editor used regex =>
      next editor (regex.search (subjectOf manner used editor.pattern.text) 0).isSome
  | .step first step =>
    next editor (editor.number ≥ first && (editor.number - first) % step == 0)
  | .anywhere => next editor true

/-- Sets how far the range of a command has come. -/
def setRange (editor : Editor) (index : Nat) (state : RangeState) : Editor :=
  { editor with ranges := editor.ranges.setIfInBounds index state }

/-- The state of a range after its end. -/
def ended (first : Address) : RangeState :=
  match first with
  | .line _ => .closed
  | _ => .outside

/-- The state of a range that begins at the line in hand. -/
def begun (editor : Editor) (first : Address) : RangeEnd → RangeState
  | .at (.line last) => upTo last
  | .at (.step start step) =>
    upTo (if editor.number ≤ start then start
      else start + (editor.number - start + step - 1) / step * step)
  | .at _ => .inside none
  | .after count => upTo (editor.number + count)
  | .multiple step => if step = 0 then ended first else upTo ((editor.number / step + 1) * step)
where
  /-- The state of a range up to a line that is known by number. -/
  upTo (last : Nat) : RangeState :=
    if last ≤ editor.number then ended first else .inside (some last)

/-- Tells whether the line in hand begins a range. A line that is known by number may have gone by. -/
def whetherBegins (manner : Manner) (editor : Editor) (first : Address) (last : RangeEnd)
    (next : Editor → Bool → Job) : Job :=
  match first, last with
  | .line number, .at (.line last) =>
    next editor (editor.number == number || (number ≤ editor.number && editor.number ≤ last))
  | .line number, _ => next editor (number ≤ editor.number)
  | first, _ => editor.whetherAt manner first next

/-- Tells whether the addresses of a command mean the line in hand. -/
def whetherMeant (manner : Manner) (editor : Editor) (index : Nat) (command : Command)
    (next : Editor → Bool → Job) : Job :=
  match command.first, command.last with
  | none, _ => next editor true
  | some first, none => editor.whetherAt manner first next
  | some first, some last =>
    match editor.ranges[index]?.getD .outside with
    | .closed => next editor false
    | .outside =>
      editor.whetherBegins manner first last fun editor found =>
        if !found then next editor false
        else
          match last with
          | .at .last =>
            editor.whetherLast manner (fun editor isLast =>
              next (editor.setRange index (if isLast then ended first else .inside none)) true)
              mostInputs
          | last => next (editor.setRange index (editor.begun first last)) true
    | .inside (some final) =>
      -- A line that is known by number may have gone by; other ends are made up for.
      let isMeant : Bool := match last with
        | .at _ => editor.number ≤ final
        | _ => true
      next (if editor.number ≥ final then editor.setRange index (ended first) else editor) isMeant
    | .inside none =>
      match last with
      | .at address =>
        editor.whetherAt manner address fun editor found =>
          next (if found then editor.setRange index (ended first) else editor) true
      | _ => next (editor.setRange index (ended first)) true

/-! ### What commands do -/

/-- Carries out a substitution. -/
def replaceBy (manner : Manner) (editor : Editor) (substitution : Substitution)
    (next : Editor → Job) : Job :=
  editor.withPattern manner substitution.pattern fun editor used regex =>
    let greatest := greatestGroup substitution.replacement
    if used.isAddress ∧ greatest > used.groups ∧ !manner.strict then
      editor.panic manner (manner.script.start.tell (.missingGroup greatest)) 1
    else
      let subject := subjectOf manner used editor.pattern.text
      match substitute manner.call.glyphs subject regex substitution with
      | none => next editor
      | some made =>
        let editor := { editor with pattern.text := manner.ofGlyphs made, changed := true }
        let finish (editor : Editor) : Job :=
          let editor := if substitution.prints ∧ !(substitution.runs ∧ substitution.printsFirst) then
              editor.putLine manner "" editor.pattern else editor
          next <| match substitution.file with
            | some name => editor.putLine manner name editor.pattern
            | none => editor
        if substitution.runs then
          let editor := if substitution.prints ∧ substitution.printsFirst then
              editor.putLine manner "" editor.pattern else editor
          Job.capture manner.call editor.pattern.text fun output =>
            finish { editor with pattern.text := withoutEnd manner output }
        else finish editor
where
  /-- A text without the end of its last line. -/
  withoutEnd (manner : Manner) (text : String) : String :=
    if text.endsWith (String.singleton manner.separator) then (text.dropEnd 1).toString else text

/-- The part of a text before the first end of a line, and the part after it. -/
def atLineEnd (manner : Manner) (text : String) : String × Option String :=
  let first := (text.takeWhile (· != manner.separator)).toString
  if first.length = text.length then (text, none)
  else (first, some (text.drop (first.length + 1)).toString)

/-- The first line of the pattern space. -/
def firstLine (manner : Manner) (editor : Editor) : Line :=
  match atLineEnd manner editor.pattern.text with
  | (_, none) => editor.pattern
  | (first, some _) => ⟨first, true⟩

/-- A text with another after it. -/
def joined (manner : Manner) (first second : Line) : Line :=
  ⟨first.text.push manner.separator ++ second.text, second.ended⟩

/-- What a command makes of an edit that needs nothing from outside for it. -/
def changed? (manner : Manner) (editor : Editor) : Action → Option Editor
  | .openBlock | .closeBlock | .label _ => some editor
  | .number => some (editor.put manner "" ((toString editor.number).push manner.separator))
  | .withText .append text =>
    some { editor with postponed := .text text :: editor.postponed }
  | .withText .insert text => some (editor.putText manner text)
  | .print => some (editor.putLine manner "" editor.pattern)
  | .printFirst => some (editor.putLine manner "" (editor.firstLine manner))
  | .hold => some { editor with hold := editor.pattern }
  | .appendHold => some { editor with hold := joined manner editor.hold editor.pattern }
  | .get => some { editor with pattern := editor.hold }
  | .appendGet => some { editor with pattern := joined manner editor.pattern editor.hold }
  | .exchange => some { editor with pattern := editor.hold, hold := editor.pattern }
  | .clear => some { editor with pattern.text := "" }
  | .nameInput => some (editor.put manner "" (editor.title.push manner.separator))
  | .list width =>
    let text := listing (width.getD manner.width) manner.separator editor.pattern.text
    some (editor.put manner "" (text.push manner.separator))
  | .readFile name => some { editor with postponed := .file name :: editor.postponed }
  | .writeFile name => some (editor.putLine manner name editor.pattern)
  | .writeFirst name => some (editor.putLine manner name (editor.firstLine manner))
  | .replace old new =>
    let swap (glyph : Nat) : Nat := (((old.zip new).find? (·.1 == glyph)).map (·.2)).getD glyph
    some { editor with
      pattern.text := manner.ofGlyphs ((manner.glyphs editor.pattern.text).map swap) }
  | _ => none

/-- Takes a line of a file to put it out after the line in hand. -/
def takeLine (manner : Manner) (editor : Editor) (name : String) (next : Editor → Job) : Job :=
  let postpone (editor : Editor) (line : Line) : Editor :=
    let text := if line.ended then line.text.push manner.separator else line.text
    { editor with postponed := .text text :: editor.postponed }
  if name = "/dev/stdin" ∧ !manner.strict then
    readOn manner Source.hasLine "-" editor (fun source =>
      match source.take? with
      | none => next { editor with standard := source }
      | some (line, source) => next (postpone { editor with standard := source } line))
      mostReads editor.standard
  else
    match editor.companions.find? (·.name == name) with
    | none => next editor
    | some file =>
      match file.ahead with
      | [] => next editor
      | line :: ahead =>
        next (postpone { editor with
          companions := editor.companions.map fun other =>
            if other.name == name then { other with ahead } else other } line)

/-! ### Running a script -/

/-- The place after the block that begins at a command; `depth` blocks are open. -/
def afterBlock (script : Array Command) (depth : Nat) : (measure : Nat) → (index : Nat) → Nat
  | 0, index => index
  | measure + 1, index =>
    match script[index]? with
    | none => index
    | some command =>
      match command.action with
      | .openBlock => afterBlock script (depth + 1) measure (index + 1)
      | .closeBlock =>
        if depth ≤ 1 then index + 1 else afterBlock script (depth - 1) measure (index + 1)
      | _ => afterBlock script depth measure (index + 1)

/-- The place that a jump leads to: a label, or the end of the script. -/
def targetOf (script : Array Command) (name : String) : Nat :=
  let isHere (command : Command) : Bool :=
    match command.action with
    | .label other => other == name
    | _ => false
  let places := (List.range script.size).filter fun index => (script[index]?).any isHere
  if name = "" then script.size else places.getLastD script.size

/-- The octets that were read of the standard input and are left. -/
def unread (editor : Editor) : Nat :=
  editor.standard.lines.foldl (· + ·.length + 1) editor.standard.rest.length

/-- Ends an edit. -/
def quit (manner : Manner) (editor : Editor) (status : Nat) : Job :=
  editor.closeInput manner fun editor =>
    editor.emit manner true fun editor =>
      Job.giveBack 0 editor.unread (.exit (if editor.failed then 2 else status))

/-- How many commands go by before a moment passes. -/
def commandsPerMoment : Nat := 1024

/-- Carries out a script from a command on, and again for the lines that follow. -/
def run (manner : Manner) : (fuel : Nat) → Editor → (index : Nat) → Job
  | 0, editor, _ => editor.quit manner 1
  | fuel + 1, editor, index =>
    let here (editor : Editor) (index : Nat) : Job :=
      if fuel % commandsPerMoment = 0 then
        .pause 4000000 (.own fun _ => run manner fuel editor index)
      else run manner fuel editor index
    let go (editor : Editor) (index : Nat) : Job :=
      if editor.isDue manner then editor.emit manner false fun editor => here editor index
      else here editor index
    let cycle (editor : Editor) : Job :=
      editor.nextLine manner false fun editor found =>
        if found then go editor 0 else editor.quit manner 0
    let shown (editor : Editor) : Editor :=
      if manner.quiet then editor else editor.putLine manner "" editor.pattern
    let script := manner.script.commands
    match script[index]? with
    | none => cycle (shown editor)
    | some command =>
      editor.whetherMeant manner index command fun editor found =>
        if found == command.negated then
          go editor <| match command.action with
            | .openBlock => afterBlock script 0 script.size index
            | _ => index + 1
        else
          match command.startFile?, editor.changed? manner command.action with
          | some name, _ =>
            { editor with postponed := [.file name] }.flushPostponed manner fun next =>
              go { next with postponed := editor.postponed } (index + 1)
          | none, some editor => go editor (index + 1)
          | none, none =>
            match command.action with
            | .withText .change text =>
              let isWithin : Bool := match editor.ranges[index]? with
                | some (.inside _) => true
                | _ => false
              let isOver := command.negated || command.last.isNone || !isWithin
              cycle (if isOver then editor.putText manner text else editor)
            | .withText .run "" =>
              Job.capture manner.call editor.pattern.text fun output =>
                go { editor with pattern.text := replaceBy.withoutEnd manner output } (index + 1)
            | .withText .run text =>
              let editor := editor.put manner "" ""
              Job.capture manner.call (text.dropEnd 1).toString fun output =>
                go (if output = "" then editor else editor.put manner "" output) (index + 1)
            | .branch name => go editor (targetOf script name)
            | .branchIfChanged name =>
              if editor.changed then go { editor with changed := false } (targetOf script name)
              else go editor (index + 1)
            | .branchUnlessChanged name =>
              if editor.changed then go { editor with changed := false } (index + 1)
              else go editor (targetOf script name)
            | .deleteFirst =>
              match atLineEnd manner editor.pattern.text with
              | (_, none) => cycle editor
              | (_, some rest) => go { editor with pattern.text := rest } 0
            | .next =>
              editor.whetherLast manner (fun editor isLast =>
                if isLast then cycle (shown editor)
                else
                  (shown editor).nextLine manner false fun editor _ => go editor (index + 1))
                mostInputs
            | .appendNext =>
              editor.whetherLast manner (fun editor isLast =>
                if isLast then cycle (if manner.strict then editor else shown editor)
                else editor.nextLine manner true fun editor _ => go editor (index + 1)) mostInputs
            | .quit status silently =>
              if silently then editor.quit manner status
              else
                ((shown editor).put manner "" "").flushPostponed manner fun editor =>
                  editor.quit manner status
            | .readLine name => editor.takeLine manner name fun editor => go editor (index + 1)
            | .substitute substitution =>
              editor.replaceBy manner substitution fun editor => go editor (index + 1)
            | .vacant letter =>
              editor.panic manner ("INTERNAL ERROR: Bad cmd " ++ String.singleton letter)
            | _ => cycle editor

/-- How many commands are carried out at most. -/
def patience : Nat := 1000000000000

/-- Edits inputs. -/
def start (editor : Editor) (manner : Manner) : Job :=
  editor.nextLine manner false fun editor found =>
    if found then run manner patience editor 0 else editor.quit manner 0

end Editor

/-! ### The program -/

/-- The options of `sed`. -/
def options : Accepted :=
  { letters := "bsnrzuEe:f:l:πδσφ"
    attached := "i"
    package := "GNU sed) 4.9"
    names := [("binary", 'b'), ("regexp-extended", 'r'), ("debug", 'δ'), ("in-place", 'i'),
      ("expression", 'e'), ("file", 'f'), ("line-length", 'l'), ("null-data", 'z'),
      ("zero-terminated", 'z'), ("quiet", 'n'), ("posix", 'π'), ("silent", 'n'), ("sandbox", 'σ'),
      ("separate", 's'), ("unbuffered", 'u'), ("version", Accepted.versionLetter),
      ("help", Accepted.helpLetter), ("follow-symlinks", 'φ')] }

/-- What is told of the use of the program. -/
def usage (call : Invocation) : String :=
  unlines [
    "Usage: " ++ call.name ++ " [OPTION]... \x7bscript-only-if-no-other-script\x7d [input-file]...",
    "",
    "  -n, --quiet, --silent",
    "                 suppress automatic printing of pattern space",
    "      --debug",
    "                 annotate program execution",
    "  -e script, --expression=script",
    "                 add the script to the commands to be executed",
    "  -f script-file, --file=script-file",
    "                 add the contents of script-file to the commands to be executed",
    "  --follow-symlinks",
    "                 follow symlinks when processing in place",
    "  -i[SUFFIX], --in-place[=SUFFIX]",
    "                 edit files in place (makes backup if SUFFIX supplied)",
    "  -l N, --line-length=N",
    "                 specify the desired line-wrap length for the \x60l' command",
    "  --posix",
    "                 disable all GNU extensions.",
    "  -E, -r, --regexp-extended",
    "                 use extended regular expressions in the script",
    "                 (for portability use POSIX -E).",
    "  -s, --separate",
    "                 consider files as separate rather than as a single,",
    "                 continuous long stream.",
    "      --sandbox",
    "                 operate in sandbox mode (disable e/r/w commands).",
    "  -u, --unbuffered",
    "                 load minimal amounts of data from the input files and flush",
    "                 the output buffers more often",
    "  -z, --null-data",
    "                 separate lines by NUL characters",
    "      --help     display this help and exit",
    "      --version  output version information and exit",
    "",
    "If no -e, --expression, -f, or --file option is given, then the first",
    "non-option argument is taken as the sed script to interpret.  All",
    "remaining arguments are names of input files; if no input files are",
    "specified, then the standard input is read.",
    ""]

/-- The number that a text begins with. -/
def leadingNumber (text : String) : Nat := Digit.numeral (text.toList.takeWhile Char.isDigit)

/-- Opens the files of a script. -/
def openFiles (manner : Manner) (editor : Editor) (next : Editor → Job) : List NamedFile → Job
  | [] => next editor
  | ⟨name, true⟩ :: rest =>
    let add (descriptor : Nat) : Editor :=
      { editor with outlets := editor.outlets ++ [⟨name, some descriptor, false⟩] }
    let special := if manner.strict then none
      else [("/dev/stdin", 0), ("/dev/stdout", 1), ("/dev/stderr", 2)].lookup name
    match special with
    | some descriptor => openFiles manner (add descriptor) next rest
    | none =>
      .open name { writes := true, creates := true, truncates := true } fun opened =>
        match opened with
        | .ok descriptor => openFiles manner (add descriptor) next rest
        | .error fault =>
          Job.fail manner.call ("couldn't open file " ++ name ++ ": " ++ fault.message) 4
  | ⟨name, false⟩ :: rest =>
    if name = "/dev/stdin" ∧ !manner.strict then openFiles manner editor next rest
    else Editor.readFile name fun text =>
      let pieces := text.splitOn (String.singleton manner.separator)
      let last := pieces.getLastD ""
      let lines : List Line := pieces.dropLast.map (⟨·, true⟩) ++
        if last = "" then [] else [⟨last, false⟩]
      openFiles manner { editor with companions := editor.companions ++ [⟨name, lines, lines⟩] } next
        rest

/-- Edits as options ask, with a script in parts. -/
def editWith (call : Invocation) (arguments : Arguments) (parts : List (Origin × String))
    (names : List String) : Job :=
  let has := arguments.has
  let dialect : Dialect :=
    { extended := has 'E' || has 'r', isUtf8 := call.isUtf8, strict := has 'π'
      confined := has 'σ' }
  let inPlace := arguments.value? 'i'
  let mannerOf (script : Script) : Manner :=
    { call, script, quiet := has 'n' || script.quiet
      separator := if has 'z' then '\x00' else '\n'
      width := ((arguments.value? 'l').map leadingNumber).getD 70
      strict := has 'π', separate := has 's' || inPlace.isSome, unbuffered := has 'u', inPlace
      followsLinks := has 'φ' }
  let editorOf (manner : Manner) : Editor :=
    { names := if names.isEmpty then ["-"] else names
      outlets := [⟨"", if inPlace.isSome then none else some 1, false⟩], ranges := manner.ranges }
  match readScript dialect parts with
  | .error refusal =>
    let manner := mannerOf ⟨#[], [], false, ⟨.expression 1, 0, 1⟩⟩
    openFiles manner (editorOf manner) (fun _ => Job.fail call refusal.text refusal.status)
      refusal.files
  | .ok script =>
    let manner := mannerOf script
    openFiles manner (editorOf manner) (fun editor =>
      if inPlace.isSome ∧ names.isEmpty then Job.fail call "no input files" 4
      else editor.start manner) script.files

/-- Reads the parts of a script that options give; `count` expressions were read before. -/
def gatherParts (call : Invocation) (done : List (Origin × String)) (count : Nat)
    (next : List (Origin × String) → Job) : List (Char × String) → Job
  | [] => next done.reverse
  | ('e', text) :: rest =>
    gatherParts call ((.expression (count + 1), text) :: done) (count + 1) next rest
  | ('f', name) :: rest =>
    Job.readInput name fun text =>
      match text with
      | .ok text => gatherParts call ((.file name, text) :: done) count next rest
      | .error .isDirectory =>
        Job.fail call ("read error on " ++ name ++ ": " ++ SystemFault.isDirectory.message) 4
      | .error fault =>
        Job.fail call ("couldn't open file " ++ name ++ ": " ++ fault.message)
  | _ :: rest => gatherParts call done count next rest

end Editing

/-- The program `sed`. -/
def sed : Utility := fun call =>
  match Editing.options.readFrom {} (call.args.length + 1) call.args with
  | (_, some misuse) =>
    Job.warn call misuse.message (Job.complain (Editing.usage call) (.exit 1))
  | (done, none) =>
    let arguments : Arguments := ⟨done.options.reverse, done.operands.reverse⟩
    if arguments.has Accepted.helpLetter then Job.answer call (Editing.usage call)
    else if arguments.has Accepted.versionLetter then Job.answer call "sed (GNU sed) 4.9\n"
    else
      let isGiven := arguments.has 'e' || arguments.has 'f'
      match isGiven, arguments.operands with
      | true, names =>
        Editing.gatherParts call [] 0 (Editing.editWith call arguments · names) arguments.options
      | false, script :: names =>
        Editing.editWith call arguments [(.expression 1, script)] names
      | false, [] => Job.complain (Editing.usage call) (.exit 1)

end Utility

end ArtifactLens.Shell
