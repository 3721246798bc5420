import ArtifactLens.Shell.Utility.Filtering
import ArtifactLens.Shell.Utility.Launching

/-!
# Commands from lists of words

The program `xargs` reads words and runs a command with as many of them as are allowed at once.
Reading is a pure step on a state (`Gatherer.step`), which says when a command is due; how commands run,
and how their endings count, is apart from it (`Gathering.launch`, `Gathering.leave`).
-/

namespace ArtifactLens.Shell

namespace Utility

/-- How words are read and handed to commands. -/
structure Gathering where
  /-- The command with the words that it always has. -/
  command : List String := ["echo"]
  /-- The file that is read instead of the input. -/
  file : String := "-"
  /-- What words end with, if not with blanks. -/
  delimiter : Option Char := none
  /-- The word at which reading ends. -/
  lastWord : Option String := none
  /-- The text in the words of the command that stands for what was read. -/
  mark : Option String := none
  /-- How many lines, or words, a command takes; zero is no limit. -/
  lines : Nat := 0
  words : Nat := 0
  /-- How much room the words of a command take at most. -/
  room : Nat := 131072
  /-- Too long a command is a fault, instead of being divided. -/
  isStrict : Bool := false
  tells : Bool := false
  asks : Bool := false
  /-- Nothing is run without any words. -/
  skipsEmpty : Bool := false
  showsLimits : Bool := false
  /-- Commands read from the terminal. -/
  opensTerminal : Bool := false
  /-- How many commands run at once; zero is no limit. -/
  processes : Nat := 1
  /-- The name by which a command learns its place among those that run at once. -/
  slotName : Option String := none

/-! ### Options -/

namespace Gathering

/-- The value of an integer, held within the range of numbers. -/
def number? (text : String) : Option Int :=
  let body := text.toList.dropWhile Arithmetic.isSpace
  let (negative, digits) := match body with
    | '-' :: rest => (true, rest)
    | '+' :: rest => (false, rest)
    | rest => (false, rest)
  if digits.isEmpty ∨ !digits.all Char.isDigit then none
  else
    let value : Int := Digit.numeral digits
    some (Arithmetic.clamp (if negative then -value else value))

/-- Goes on with the number that an option gives, which is to lie in a range. A number out of range is
the end, or else the nearest in the range counts. -/
def takeNumber (call : Invocation) (letter : Char) (least : Nat) (most : Option Nat)
    (isFatal : Bool) (text : String) (next : Nat → Job) : Job :=
  let option := "for -" ++ String.singleton letter ++ " option"
  match number? text with
  | none => Job.misuse call ("invalid number \"" ++ text ++ "\" " ++ option)
  | some value =>
    let outside (bound : Nat) (sign : String) : Job :=
      let complaint := "value " ++ text ++ " " ++ option ++ " should be " ++ sign ++ " " ++
        toString bound
      if isFatal then Job.misuse call complaint else Job.warn call complaint (next bound)
    if value < least then outside least ">="
    else
      match most with
      | some most => if value > most then outside most "<=" else next value.toNat
      | none => next value.toNat

/-- The octet that a text after a backslash stands for, or what is wrong with it. -/
def escapedDelimiter (text : String) (rest : List Char) : Except String Char :=
  let wrong (why : String) : Except String Char :=
    .error ("Invalid escape sequence " ++ text ++ " in input delimiter specification" ++ why)
  let coded (base most : Nat) (shown : String) (digits after : List Char) : Except String Char :=
    let value := digits.foldl (fun n d => n * base + (Digit.hexValue? d).getD 0) 0
    if value > most then wrong ("; character values must not exceed " ++ shown ++ ".")
    else if after.isEmpty then .ok (Char.ofNat value)
    else wrong ("; trailing characters " ++ String.ofList after ++ " not recognised.")
  match rest with
  | ['a'] => .ok '\x07'
  | ['b'] => .ok '\x08'
  | ['f'] => .ok '\x0c'
  | ['n'] => .ok '\n'
  | ['r'] => .ok '\r'
  | ['t'] => .ok '\t'
  | ['v'] => .ok '\x0b'
  | ['\\'] => .ok '\\'
  | 'x' :: more =>
    let digits := more.takeWhile fun d => (Digit.hexValue? d).isSome
    coded 16 255 "ff" digits (more.drop digits.length)
  | _ =>
    if (rest.head?.map Char.isDigit).getD false then
      let digits := rest.takeWhile fun d => '0' ≤ d && d ≤ '7'
      coded 8 255 "377" digits (rest.drop digits.length)
    else wrong "."

/-- The delimiter that a text gives, or what is wrong with it. -/
def delimiterOf (text : String) : Except String Char :=
  match text.toList with
  | [c] => .ok c
  | '\\' :: rest => escapedDelimiter text rest
  | _ =>
    .error ("Invalid input delimiter specification " ++ text ++
      ": the delimiter must be either a single character or an escape sequence starting with \\.")

/-- How much room an environment takes. -/
def environmentSize (environment : Environment) : Nat :=
  environment.foldl (fun sum entry => sum + entry.1.length + entry.2.length + 2) 0

/-- The most room that the words of a command may take. -/
def mostRoom (environment : Environment) : Nat := 2097152 - 2048 - environmentSize environment

/-- The greatest number of commands that run at once. -/
def mostProcesses : Nat := 2 ^ 31 - 1

/-- What is said of options of which the later one rules. -/
def rival (one other : String) : String :=
  "warning: options --" ++ one ++ " and " ++ other ++
    " are mutually exclusive, ignoring previous --" ++ one ++ " value"

/-- Lets the option that is given now rule out the others that say how words are grouped. -/
def ruleOut (call : Invocation) (gathering : Gathering) (option : String) (next : Job) : Job :=
  let words := if gathering.words ≠ 0 ∧ option ≠ "--max-args/-n" then [rival "max-args" option] else []
  let lines := if gathering.lines ≠ 0 ∧ option ≠ "-L" ∧ option ≠ "--max-lines/-l" then
    [rival "max-lines" option] else []
  let mark := if gathering.mark.isSome ∧ option ≠ "--replace/-I/-i" then [rival "replace" option]
    else []
  (words ++ lines ++ mark).foldr (Job.warn call) next

/-- Takes the options one after another. -/
def settle (call : Invocation) (next : Gathering → Job) (gathering : Gathering) :
    List (Char × String) → Job
  | [] => next gathering
  | (letter, value) :: rest =>
    let goOn (gathering : Gathering) : Job := settle call next gathering rest
    let ruling (option : String) (gathering' : Gathering) : Job :=
      ruleOut call gathering option (settle call next gathering' rest)
    let bare := { gathering with words := 0, lines := 0, mark := none }
    match letter with
    | '0' => goOn { gathering with delimiter := some '\x00' }
    | 'd' =>
      match delimiterOf value with
      | .ok mark => goOn { gathering with delimiter := some mark }
      | .error complaint => Job.fail call complaint
    | 'E' | 'e' => goOn { gathering with lastWord := if value = "" then none else some value }
    | 'I' | 'i' => ruling "--replace/-I/-i" { bare with mark := some value }
    | 'ρ' => ruling "--replace/-I/-i" { bare with mark := some "\x7b\x7d" }
    | 'L' =>
      takeNumber call 'L' 1 none true value fun lines => ruling "-L" { bare with lines }
    | 'l' =>
      takeNumber call 'l' 1 none true value fun lines =>
        ruling "--max-lines/-l" { bare with lines }
    | 'λ' => ruling "--max-lines/-l" { bare with lines := 1 }
    | 'n' =>
      takeNumber call 'n' 1 none true value fun words =>
        -- A single word at once is what a mark means anyway.
        if words = 1 ∧ gathering.mark.isSome then goOn { gathering with words := 0, lines := 0 }
        else ruling "--max-args/-n" { bare with words }
    | 's' =>
      takeNumber call 's' 1 (some (mostRoom call.environment)) false value fun room =>
        goOn { gathering with room }
    | 'P' =>
      takeNumber call 'P' 0 (some mostProcesses) true value fun processes =>
        goOn { gathering with processes }
    | 'σ' => goOn { gathering with showsLimits := true }
    | 't' => goOn { gathering with tells := true }
    | 'x' => goOn { gathering with isStrict := true }
    | 'o' => goOn { gathering with opensTerminal := true }
    | 'p' => goOn { gathering with asks := true, tells := true }
    | 'r' => goOn { gathering with skipsEmpty := true }
    | 'a' => goOn { gathering with file := value }
    | 'ψ' =>
      if value.contains '=' then
        Job.fail call "option --process-slot-var may not be set to a value which includes \x60='"
      else if value = "" then
        Job.fail call ("failed to unset environment variable " ++ value ++ ": Invalid argument")
      else goOn { gathering with slotName := some value }
    | _ => goOn gathering

/-- The options of `xargs`. -/
def accepted : Accepted :=
  { letters := "0a:E:eiI:lL:n:prs:txP:d:oσψ:", attached := "eil", leading := true
    bare := [('i', 'ρ'), ('l', 'λ')], package := "GNU findutils) 4.9.0"
    names := [("null", '0'), ("arg-file", 'a'), ("delimiter", 'd'), ("eof", 'e'), ("replace", 'i'),
      ("max-lines", 'l'), ("max-args", 'n'), ("open-tty", 'o'), ("interactive", 'p'),
      ("no-run-if-empty", 'r'), ("max-chars", 's'), ("verbose", 't'), ("show-limits", 'σ'),
      ("exit", 'x'), ("max-procs", 'P'), ("process-slot-var", 'ψ')] }

end Gathering

/-! ### Reading words -/

/-- Where in a text reading is. -/
inductive GatherPlace where
  /-- Before a word. -/
  | blank
  | plain
  | quoted (mark : Char)
  /-- After a backslash. -/
  | escaped

/-- Why reading cannot go on. -/
inductive GatherFault where
  | openQuote (mark : Char)
  | longLine
  | longWord
  | longCommand
  /-- The command became too long by what was put in for a mark. -/
  | longFilling
  deriving DecidableEq

/-- The wording of a fault. -/
def GatherFault.message : GatherFault → String
  | .openQuote mark => "unmatched " ++ (if mark = '"' then "double" else "single") ++
    " quote; by default quotes are special to xargs unless you use the -0 option"
  | .longLine => "argument line too long"
  | .longWord => "cannot fit single argument within argument list size limit"
  | .longCommand => "argument list too long"
  | .longFilling => "command too long"

/-- What is to be done before reading goes on. -/
inductive GatherNeed where
  | none
  /-- A command is to be run with the words at hand. -/
  | command
  /-- A command is to be run with what was read in place of a mark. -/
  | filling (item : String)
  | warning
  | fault (fault : GatherFault)
  /-- Reading is over. -/
  | over

/-- What was read so far, and words for the next command. -/
structure Gatherer where
  place : GatherPlace := .blank
  /-- The word at hand, in reverse, and its length. -/
  word : List Char := []
  length : Nat := 0
  /-- The character before. -/
  before : Option Char := none
  /-- The word is the first one on its line. -/
  isFirst : Bool := true
  /-- A quote was seen on the line. -/
  sawQuote : Bool := false
  lines : Nat := 0
  isOver : Bool := false
  warned : Bool := false
  /-- The room that the words that every command has take. -/
  fixed : Nat := 0
  /-- The words for the next command, the last one first, their number and their room. -/
  words : List String := []
  count : Nat := 0
  size : Nat := 0
  /-- A word that has to wait for the next command after this. -/
  waiting : Option String := none

namespace Gatherer

/-- The word at hand. -/
def text (gatherer : Gatherer) : String := String.ofList gatherer.word.reverse

/-- A word up to the first octet zero, where it ends for a command. -/
def heard (word : String) : String :=
  if word.contains '\x00' then (word.takeWhile (· != '\x00')).toString else word

/-- Puts a word among those for the next command. -/
def push (gathering : Gathering) (gatherer : Gatherer) (word : String) : Gatherer × GatherNeed :=
  let size := gatherer.size + word.length + 1
  if size > gathering.room then
    if gatherer.count = 0 then (gatherer, .fault .longWord)
    else if gathering.isStrict ∧ (gathering.lines ≠ 0 ∨ gathering.words ≠ 0) then
      (gatherer, .fault .longCommand)
    else ({ gatherer with waiting := some word }, .command)
  else
    ({ gatherer with words := heard word :: gatherer.words, count := gatherer.count + 1, size },
      if gathering.words ≠ 0 ∧ gatherer.count + 1 = gathering.words then .command else .none)

/-- Starts a new line. -/
def newLine (gatherer : Gatherer) : Gatherer :=
  { gatherer with
    place := .blank, word := [], length := 0, before := none, isFirst := true, sawQuote := false }

/-- Hands on the word at hand, with which a line ends. -/
def endLine (gathering : Gathering) (gatherer : Gatherer) : Gatherer × GatherNeed :=
  let word := gatherer.text
  let next := gatherer.newLine
  if gathering.mark.isSome then (next, .filling word)
  else
    match next.push gathering word with
    | (next, .none) =>
      if gathering.lines ≠ 0 ∧ next.lines ≥ gathering.lines then ({ next with lines := 0 }, .command)
      else (next, .none)
    | other => other

/-- Ends the line without the word at hand, which is the last one of all. -/
def stop (gathering : Gathering) (gatherer : Gatherer) : Gatherer × GatherNeed :=
  let next := { gatherer.newLine with isOver := true }
  if !gatherer.isFirst ∧ gathering.lines ≠ 0 ∧ next.lines ≥ gathering.lines then
    ({ next with lines := 0 }, .command)
  else (next, .over)

/-- The word at hand is the one at which reading ends. -/
def isLast (gathering : Gathering) (gatherer : Gatherer) : Bool :=
  gathering.lastWord == some (heard gatherer.text)

/-- Adds a character to the word at hand. -/
def add (gathering : Gathering) (gatherer : Gatherer) (c : Char) : Gatherer × GatherNeed :=
  if c = '\x00' ∧ gathering.delimiter.isNone ∧ !gatherer.warned then
    ({ gatherer with warned := true, word := c :: gatherer.word, length := gatherer.length + 1 },
      .warning)
  else if gatherer.length + 1 + gatherer.fixed ≥ gathering.room then
    (gatherer, .fault .longLine)
  else ({ gatherer with word := c :: gatherer.word, length := gatherer.length + 1 }, .none)

/-- Takes a character in where words end with a delimiter. -/
def stepPlain (gathering : Gathering) (delimiter : Char) (gatherer : Gatherer) (c : Char) :
    Gatherer × GatherNeed :=
  if c = delimiter then { gatherer with lines := gatherer.lines + 1 }.endLine gathering
  else gatherer.add gathering c

/-- Takes a character in where words end with blanks. -/
def stepWords (gathering : Gathering) (gatherer : Gatherer) (c : Char) : Gatherer × GatherNeed :=
  let isBlank (c : Char) : Bool := c == ' ' || c == '\t'
  let place := gatherer.place
  let wasBlank := (gatherer.before.map isBlank).getD false
  let gatherer := { gatherer with before := some c }
  let inWord (gatherer : Gatherer) : Gatherer × GatherNeed :=
    if c = '\n' then
      let gatherer := if wasBlank then gatherer else { gatherer with lines := gatherer.lines + 1 }
      if gatherer.word.isEmpty ∧ !gatherer.sawQuote then ({ gatherer with place := .blank }, .none)
      else if gatherer.isLast gathering then gatherer.stop gathering
      else gatherer.endLine gathering
    else if isBlank c ∧ gathering.mark.isNone then
      if gatherer.isLast gathering then gatherer.stop gathering
      else
        { gatherer with place := .blank, word := [], length := 0, isFirst := false }.push gathering
          gatherer.text
    else if c = '\\' then ({ gatherer with place := .escaped }, .none)
    else if c = '\'' ∨ c = '"' then
      ({ gatherer with place := .quoted c, sawQuote := true }, .none)
    else { gatherer with place := .plain }.add gathering c
  match place with
  | .blank => if Arithmetic.isSpace c then (gatherer, .none) else inWord gatherer
  | .plain => inWord gatherer
  | .quoted mark =>
    if c = '\n' then (gatherer, .fault (.openQuote mark))
    else if c = mark then ({ gatherer with place := .plain }, .none)
    else gatherer.add gathering c
  | .escaped => { gatherer with place := .plain }.add gathering c

/-- Takes in as much of a text as can be done without a need. -/
def run (gathering : Gathering) (gatherer : Gatherer) :
    List Char → Gatherer × GatherNeed × List Char
  | [] => (gatherer, .none, [])
  | c :: rest =>
    let (gatherer, need) := match gathering.delimiter with
      | some delimiter => gatherer.stepPlain gathering delimiter c
      | none => gatherer.stepWords gathering c
    match need with
    | .none => run gathering gatherer rest
    | need => (gatherer, need, rest)

/-- Takes in the end of the input. -/
def finish (gathering : Gathering) (gatherer : Gatherer) : Gatherer × GatherNeed :=
  let ended := { gatherer with isOver := true }
  if gatherer.word.isEmpty then (ended, .over)
  else
    match gatherer.place, gathering.delimiter with
    | .quoted mark, none => (ended, .fault (.openQuote mark))
    | _, none =>
      if gatherer.isFirst ∧ gatherer.isLast gathering then (ended, .over) else ended.endLine gathering
    | _, some _ => ended.endLine gathering

/-- The words for the next command, which are taken away. -/
def take (gatherer : Gatherer) : List String × Gatherer :=
  (gatherer.words.reverse, { gatherer with words := [], count := 0, size := gatherer.fixed })

end Gatherer

/-! ### Running commands -/

/-- The commands that were run. -/
structure Launched where
  /-- Those that run, by their places. -/
  running : List (Nat × Nat) := []
  /-- How many were run in all. -/
  count : Nat := 0
  /-- The status that their endings lead to. -/
  status : Nat := 0
  /-- The input could not be read to its end; there may be a reason. -/
  unread : Option (Option SystemFault) := none

namespace Gathering

/-- The name of the command. -/
def name (gathering : Gathering) : String := gathering.command.headD ""

/-- Ends with a status, once no command runs any more. Where the ending of a command has changed the
status, that one counts; `original` is the one that was there before. -/
def leave (call : Invocation) (gathering : Gathering) (original status : Nat) :
    (measure : Nat) → Launched → Job
  | 0, _ => .exit status
  | measure + 1, launched =>
    match launched.running with
    | [] =>
      if launched.status ≠ original then .exit launched.status
      else
        match launched.unread with
        | some fault =>
          Job.fail call ("error closing file" ++
            (fault.map fun fault => ": " ++ fault.message).getD "")
        | none => .exit status
    | running =>
      .awaitAny (running.map (·.2)) true fun ended =>
        let others (process : Nat) : Launched :=
          { launched with running := running.filter (·.2 != process) }
        match ended with
        | none => .exit status
        | some (process, .exit 0) => leave call gathering original status measure (others process)
        | some (_, .exit 255) =>
          Job.fail call (gathering.name ++ ": exited with status 255; aborting") 124
        | some (process, .exit _) =>
          leave call gathering original status measure { others process with status := 123 }
        | some (_, .signal number) =>
          Job.fail call (gathering.name ++ ": terminated by signal " ++ toString number) 125

/-- Ends with a status because of what went wrong. -/
def quit (call : Invocation) (gathering : Gathering) (launched : Launched) (status : Nat) : Job :=
  leave call gathering 0 status (launched.running.length + 1) launched

/-- Waits for commands until fewer than a number of them run; those that have ended already are counted
in any case. -/
def reap (call : Invocation) (gathering : Gathering) (most : Nat) (next : Launched → Job) :
    (measure : Nat) → Launched → Job
  | 0, launched => next launched
  | measure + 1, launched =>
    let running := launched.running
    if running.isEmpty then next launched
    else
      .awaitAny (running.map (·.2)) (most ≠ 0 && running.length ≥ most) fun ended =>
        match ended with
        | none => next launched
        | some (process, ending) =>
          let launched := { launched with running := running.filter (·.2 != process) }
          match ending with
          | .exit 0 => reap call gathering most next measure launched
          | .exit 255 =>
            Job.warn call (gathering.name ++ ": exited with status 255; aborting")
              (quit call gathering launched 124)
          | .exit _ => reap call gathering most next measure { launched with status := 123 }
          | .signal number =>
            Job.warn call (gathering.name ++ ": terminated by signal " ++ toString number)
              (quit call gathering launched 125)

/-- The process that becomes a command; through a pipe it tells if that fails, and how. -/
def child (call : Invocation) (gathering : Gathering) (source slot : Nat) (reader writer : Nat)
    (words : List String) : Job :=
  let name := words.headD ""
  let environment := match gathering.slotName with
    | some slotName =>
      (call.environment.filter (·.1 != slotName)) ++ [(slotName, toString slot)]
    | none => call.environment
  let outOfReach := 1000
  let start : Job :=
    .become (if name.contains '/' then name else "") words environment fun fault =>
      .write outOfReach (if fault = .missing then "m" else "o") fun _ =>
        Job.fail call (name ++ ": " ++ fault.message) 127
  let withInput : Job :=
    if gathering.opensTerminal then
      .close 0 (Job.warn call (call.quote "/dev/tty" ++ ": No such device or address")
        (.own fun own => .signal own 6 false (.exit 1)))
    else if gathering.file = "-" then .close 0 (.open "/dev/null" { reads := true } fun _ => start)
    else .close source start
  .close reader (.direct outOfReach writer (.close writer withInput))

/-- Runs a command with some words. -/
def launch (call : Invocation) (gathering : Gathering) (source : Nat) (words : List String)
    (next : Launched → Job) (launched : Launched) : Job :=
  let measure := launched.running.length + 1
  let goOn (launched : Launched) : Job :=
    let slots := launched.running.map (·.1)
    let slot := ((List.range (slots.length + 1)).find? fun slot => !slots.contains slot).getD 0
    .pipe fun reader writer =>
      .spawn (child call gathering source slot reader writer words) false fun process =>
        .close writer (.read reader 1 fun failure =>
          .close reader (
            match failure.toOption.getD "" with
            | "" =>
              next { launched with
                running := (slot, process) :: launched.running, count := launched.count + 1 }
            | told =>
              .await process none fun _ =>
                quit call gathering launched (if told = "m" then 127 else 126)))
  reap call gathering gathering.processes (fun launched =>
    let spelled := String.intercalate " " (words.map call.quoteWord)
    if gathering.asks then
      Job.complain spelled
        (Job.warn call "failed to open /dev/tty for reading: No such device or address"
          (quit call gathering launched 1))
    else if gathering.tells then Job.complain (spelled ++ "\n") (goOn launched)
    else goOn launched) measure launched

/-! ### The whole -/

/-- A word of the command with what was read in place of the mark; `room` is what is left for it. -/
def fill (mark item : List Char) (room : Nat) (done : List Char) :
    (measure : Nat) → List Char → Option (List Char)
  | 0, _ => none
  | measure + 1, text =>
    let plain := match mark with
      | [] => []
      | first :: _ => text.takeWhile (· != first)
    if mark.isPrefixOf text then
      if room ≤ item.length then none
      else
        let rest := text.drop mark.length
        let done := item.reverse ++ done
        if rest.isEmpty then some done.reverse
        else fill mark item (room - item.length) done measure rest
    else
      match text with
      | [] => some done.reverse
      | c :: rest =>
        -- What cannot begin the mark is taken at once.
        let plain := if plain.isEmpty then [c] else plain
        let rest := if plain.length > 1 then text.drop plain.length else rest
        if room ≤ plain.length then none
        else if rest.isEmpty then some (plain.reverse ++ done).reverse
        else fill mark item (room - plain.length) (plain.reverse ++ done) measure rest

/-- The words of a command with what was read in place of the mark, which is not sought in its
name. -/
def filled (gathering : Gathering) (item : String) : Except GatherFault (List String) := do
  let name := gathering.name
  let mark := (gathering.mark.getD "").toList
  if name.length + 1 > gathering.room then throw .longWord
  let (words, _) ← (gathering.command.drop 1).foldlM (fun (words, size) word =>
    match fill mark item.toList (gathering.room - 1) [] (word.length + gathering.room + 1)
        word.toList with
    | none => throw .longFilling
    | some text =>
      let size := size + text.length + 1
      if size > gathering.room then throw .longCommand else return (Gatherer.heard (String.ofList text) :: words, size))
    ([], name.length + 1)
  return name :: words.reverse

/-- Complains and ends; words at hand are given to a command before, unless they are no proper
part. -/
def refuse (call : Invocation) (gathering : Gathering) (source : Nat) (gatherer : Gatherer)
    (launched : Launched) (fault : GatherFault) : Job :=
  let complain (launched : Launched) : Job :=
    Job.warn call fault.message (quit call gathering launched 1)
  let isReading : Bool := match fault with
    | .openQuote _ | .longLine => true
    | _ => false
  if isReading ∧ gathering.mark.isNone ∧ gatherer.count ≠ 0 ∧ !gathering.isStrict then
    launch call gathering source (gathering.command ++ gatherer.take.1) complain launched
  else complain launched

/-- Ends when all was read. -/
def finish (call : Invocation) (gathering : Gathering) (source : Nat) (gatherer : Gatherer)
    (launched : Launched) : Job :=
  let done (launched : Launched) : Job :=
    leave call gathering launched.status launched.status (launched.running.length + 1) launched
  if gathering.mark.isNone ∧
      (gatherer.count ≠ 0 ∨ (!gathering.skipsEmpty ∧ launched.count = 0)) then
    launch call gathering source (gathering.command ++ gatherer.take.1) done launched
  else done launched

/-- Reads on and runs commands; `text` is what was read and not taken in yet. -/
def go (call : Invocation) (gathering : Gathering) (source : Nat) :
    (measure : Nat) → Gatherer → Launched → List Char → Job
  | 0, _, launched, _ => quit call gathering launched 1
  | measure + 1, gatherer, launched, text =>
    let next (gatherer : Gatherer) (text : List Char) (launched : Launched) : Job :=
      match gatherer.waiting with
      | none => go call gathering source measure gatherer launched text
      | some word =>
        match { gatherer with waiting := none }.push gathering word with
        | (gatherer, .none) => go call gathering source measure gatherer launched text
        | (gatherer, .command) =>
          let (words, gatherer) := gatherer.take
          launch call gathering source (gathering.command ++ words)
            (fun launched => go call gathering source measure gatherer launched text) launched
        | (gatherer, .fault fault) => refuse call gathering source gatherer launched fault
        | (gatherer, _) => go call gathering source measure gatherer launched text
    let meet (launched : Launched) (gatherer : Gatherer) (need : GatherNeed) (text : List Char) :
        Job :=
      match need with
      | .none => next gatherer text launched
      | .warning =>
        Job.warn call ("WARNING: a NUL character occurred in the input.  It cannot be passed " ++
          "through in the argument list.  Did you mean to use the --null option?")
          (next gatherer text launched)
      | .command =>
        let (words, gatherer) := gatherer.take
        launch call gathering source (gathering.command ++ words) (next gatherer text) launched
      | .filling item =>
        match gathering.filled item with
        | .ok words =>
          let gatherer := { gatherer with fixed := gathering.name.length + 1 }
          launch call gathering source words (next gatherer text) launched
        | .error fault => refuse call gathering source gatherer launched fault
      | .fault fault => refuse call gathering source gatherer launched fault
      | .over =>
        let give (job : Job) : Job := if source = 0 then Job.giveBack 0 text.length job else job
        give (finish call gathering source gatherer launched)
    if gatherer.isOver then meet launched gatherer .over text
    else
      match gatherer.run gathering text with
      | (gatherer, .none, _) =>
        .read source pieceSize fun piece =>
          match piece with
          | .ok "" =>
            let (gatherer, need) := gatherer.finish gathering
            meet launched gatherer need []
          | .ok piece => go call gathering source measure gatherer launched piece.toList
          | .error fault =>
            let (gatherer, need) := gatherer.finish gathering
            let unread := if source ≠ 0 then none
              else some (if fault == SystemFault.badDescriptor then some fault else none)
            meet { launched with unread } gatherer need []
      | (gatherer, need, text) => meet launched gatherer need text

/-- What is told about the limits of commands. -/
def limits (call : Invocation) (gathering : Gathering) : String :=
  let size := environmentSize call.environment
  let most := mostRoom call.environment
  let lines := [("Your environment variables take up ", size, " bytes"),
    ("POSIX upper limit on argument length (this system): ", most, ""),
    ("POSIX smallest allowable upper limit on argument length (all systems): ", 4096, ""),
    ("Maximum length of command we could actually use: ", most - size, ""),
    ("Size of command buffer we are actually using: ", gathering.room, ""),
    ("Maximum parallelism (--max-procs must be no greater): ", mostProcesses, "")]
  String.join (lines.map fun (text, n, unit) => text ++ toString n ++ unit ++ "\n")

/-- Runs commands with what a descriptor gives. -/
def run (call : Invocation) (gathering : Gathering) (source : Nat) : Job :=
  let gathering := { gathering with
    isStrict := gathering.isStrict || gathering.mark.isSome || gathering.lines != 0 }
  let fixed :=
    if gathering.mark.isSome then 0 else gathering.command.foldl (· + ·.length + 1) 0
  let start : Job :=
    if fixed > gathering.room then Job.fail call GatherFault.longWord.message
    else go call gathering source mostReads { fixed, size := fixed } {} []
  if gathering.showsLimits then Job.complain (limits call gathering) start else start

/-- Runs commands with what the file of the options gives, or the input. -/
def start (call : Invocation) (gathering : Gathering) : Job :=
  let opened : Job :=
    if gathering.file = "-" then run call gathering 0
    else
      .open gathering.file { reads := true } fun opened =>
        match opened with
        | .ok source => run call gathering source
        | .error fault =>
          Job.fail call ("Cannot open input file " ++ call.quote gathering.file ++ ": " ++
            fault.message)
  if gathering.lastWord.isSome ∧ gathering.delimiter.isSome then
    Job.warn call "warning: the -E option has no effect if -0 or -d is used.\n" opened
  else opened

end Gathering

/-- The program `xargs`. -/
def xargs : Utility := fun call =>
  Gathering.accepted.read call 1
    (fun arguments =>
      let command := if arguments.operands.isEmpty then ["echo"] else arguments.operands
      let begin (gathering : Gathering) : Job :=
        let environment := match gathering.slotName with
          | some name => call.environment.filter (·.1 != name)
          | none => call.environment
        Gathering.start { call with environment } { gathering with command }
      Gathering.settle call begin {} arguments.options)
    (fun arguments job => Gathering.settle call (fun _ => job) {} arguments.options)

end Utility

end ArtifactLens.Shell
