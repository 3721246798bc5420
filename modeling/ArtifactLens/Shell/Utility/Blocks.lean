import ArtifactLens.Shell.Conversion
import ArtifactLens.Shell.Utility.Basic
import ArtifactLens.Shell.Utility.Charset
import ArtifactLens.Shell.Utility.Filtering

/-!
# Copying blocks

The program `dd` copies its input block by block, and converts it on the way if it is asked to. It
counts the blocks that were whole and those that were not, and tells so in the end.
-/

namespace ArtifactLens.Shell

namespace Utility.Blocks

/-! ### Settings -/

/-- What is told in the end. -/
inductive Telling where
  | nothing
  | records
  | all
  deriving DecidableEq

/-- The settings of a copy as they are given. -/
structure Settings where
  input : Option String := none
  output : Option String := none
  block : Option Nat := none
  inputBlock : Option Nat := none
  outputBlock : Option Nat := none
  lineBlock : Nat := 0
  /-- Numbers of blocks, or else of octets. -/
  skip : Nat × Bool := (0, false)
  seek : Nat × Bool := (0, false)
  count : Option (Nat × Bool) := none
  conversions : List String := []
  inputFlags : List String := []
  outputFlags : List String := []
  telling : Telling := .all

/-- Why a setting cannot be used. -/
inductive Fault where
  | unknown (text : String)
  | symbol (noun text : String)
  | number (text : String) (fault : Amount.Fault)

/-- The names of conversions. -/
def conversionNames : List String :=
  ["ascii", "ebcdic", "ibm", "block", "unblock", "lcase", "ucase", "sparse", "swab", "sync", "excl",
    "nocreat", "notrunc", "noerror", "fdatasync", "fsync"]

/-- The names of flags. -/
def flagNames : List String :=
  ["append", "direct", "directory", "dsync", "noatime", "nocache", "noctty", "nofollow", "nolinks",
    "nonblock", "sync", "fullblock", "count_bytes", "skip_bytes", "seek_bytes"]

/-- The number that a text spells: factors with an `x` between them. A `B` may end a factor. -/
def number? : (measure : Nat) → List Char → Except Amount.Fault Nat
  | 0, _ => .error .invalid
  | measure + 1, text =>
    let first := text.takeWhile (· != 'x')
    let factor (text : List Char) : Except Amount.Fault Nat :=
      let whole := String.ofList text
      match Amount.read "bcEGkKMPTwYZ0" false whole with
      | .ok n => .ok n.toNat
      | .error .invalid =>
        -- A `B` after the number, or after its suffix, changes nothing.
        match text.reverse with
        | 'B' :: before =>
          if before.head? = some 'B' then .error .invalid
          else (Amount.read "bcEGkKMPTwYZ0" false (String.ofList before.reverse)).map Int.toNat
        | _ => .error .invalid
      | .error fault => .error fault
    match text.drop first.length with
    | [] => factor first
    | _ :: rest =>
      match factor first, number? measure rest with
      | .error .invalid, _ | _, .error .invalid => .error .invalid
      | .ok 0, _ | _, .ok 0 => .ok 0
      | .ok a, .ok b => .ok (a * b)
      | _, _ => .error .tooLarge

/-- Parts of a text between commas that are to be among some names. -/
def symbols (names : List String) (noun text : String) : Except Fault (List String) :=
  let parts := text.splitOn ","
  match parts.find? fun part => !names.contains part with
  | some part => .error (.symbol noun part)
  | none => .ok parts

/-- Takes one setting. -/
def Settings.add (settings : Settings) (arg : String) : Except Fault Settings := do
  let name := (arg.takeWhile (· != '=')).toString
  if name.length = arg.length then throw (.unknown arg)
  let value := (arg.drop (name.length + 1)).toString
  let number (least : Nat) (most : Nat := 2 ^ 63 - 1) : Except Fault Nat :=
    match number? (value.length + 1) value.toList with
    | .error fault => .error (.number value fault)
    | .ok n =>
      if n < least then .error (.number value .invalid)
      else if most < n then .error (.number value .tooLarge)
      else .ok n
  let inOctets := value.contains 'B'
  let size := 2 ^ 63 - 2
  match name with
  | "if" => return { settings with input := some value }
  | "of" => return { settings with output := some value }
  | "conv" =>
    return { settings with
      conversions := settings.conversions ++
        (← symbols conversionNames "invalid conversion" value) }
  | "iflag" =>
    return { settings with
      inputFlags := settings.inputFlags ++ (← symbols flagNames "invalid input flag" value) }
  | "oflag" =>
    return { settings with
      outputFlags := settings.outputFlags ++ (← symbols flagNames "invalid output flag" value) }
  | "status" =>
    match value with
    | "none" => return { settings with telling := .nothing }
    | "noxfer" => return { settings with telling := .records }
    | "progress" => return { settings with telling := .all }
    | _ => throw (.symbol "invalid status level" value)
  | "ibs" => return { settings with inputBlock := some (← number 1 size) }
  | "obs" => return { settings with outputBlock := some (← number 1 size) }
  | "bs" => return { settings with block := some (← number 1 size) }
  | "cbs" => return { settings with lineBlock := ← number 1 }
  | "skip" | "iseek" => return { settings with skip := (← number 0, inOctets) }
  | "seek" | "oseek" => return { settings with seek := (← number 0, inOctets) }
  | "count" => return { settings with count := some (← number 0, inOctets) }
  | _ => throw (.unknown arg)

/-- What is said of a setting, and whether a hint follows. -/
def Fault.message (call : Invocation) : Fault → String × Bool
  | .unknown text => ("unrecognized operand " ++ call.quote text, true)
  | .symbol noun text => (noun ++ ": " ++ call.quote text, true)
  | .number text fault => (Amount.complaint call "invalid number" text fault, false)

/-- Pairs of conversions and flags that rule each other out, with what is said of them. -/
def Settings.conflict? (settings : Settings) : Option String :=
  let several (names : List String) (given : List String) : Bool :=
    (names.filter given.contains).length > 1
  let given := settings.conversions
  -- The older character sets go with blocks of lines.
  let blocks := (if given.contains "block" ∨ (given.contains "ebcdic" ∨ given.contains "ibm") then
      ["block"] else []) ++
    (if given.contains "unblock" ∨ given.contains "ascii" then ["unblock"] else [])
  if several ["ascii", "ebcdic", "ibm"] given then
    some "cannot combine any two of {ascii,ebcdic,ibm}"
  else if blocks.length > 1 ∧ settings.lineBlock > 0 then some "cannot combine block and unblock"
  else if several ["lcase", "ucase"] given then some "cannot combine lcase and ucase"
  else if several ["excl", "nocreat"] given then some "cannot combine excl and nocreat"
  else if several ["direct", "nocache"] settings.inputFlags ||
      several ["direct", "nocache"] settings.outputFlags then
    some "cannot combine direct and nocache"
  else none

/-! ### The copy -/

/-- What is done with lines of a fixed length. -/
inductive LineBlocks where
  | none
  /-- Lines become blocks that are filled up with blanks. -/
  | fill
  /-- Blocks become lines without blanks at their end. -/
  | trim
  deriving DecidableEq

/-- How a copy is made. -/
structure Plan where
  call : Invocation
  settings : Settings
  inputBlock : Nat
  outputBlock : Nat
  /-- What is read goes out as it comes. -/
  direct : Bool
  table : Option (Array Char)
  newline : Char
  space : Char
  lines : LineBlocks

/-- Where a copy stands. -/
structure Copy where
  wholeIn : Nat := 0
  partIn : Nat := 0
  wholeOut : Nat := 0
  partOut : Nat := 0
  octetsOut : Nat := 0
  truncated : Nat := 0
  /-- An octet that waits for the one it changes places with. -/
  saved : Option Char := none
  column : Nat := 0
  /-- Blanks that may be at the end of a line. -/
  spaces : Nat := 0
  /-- What is not written yet. -/
  pending : String := ""
  /-- The size of the last piece that was read. -/
  lastRead : Nat := 0
  /-- Pieces that are too small are warned about. -/
  warns : Bool

namespace Plan

/-- The plan that settings make. -/
def ofSettings (call : Invocation) (settings : Settings) : Plan :=
  let has (name : String) : Bool := settings.conversions.contains name
  let cards := has "ebcdic" || has "ibm"
  let changes := ["ascii", "ebcdic", "ibm", "block", "unblock", "lcase", "ucase", "swab"].any has
  let base : Array Char := if has "ascii" then Charset.read Charset.fromCards
    else (List.range 256).toArray.map Char.ofNat
  let cased : Array Char := if has "ucase" then base.map Char.toUpper
    else if has "lcase" then base.map Char.toLower else base
  let target? : Option (Array Char) := if has "ebcdic" then some (Charset.read Charset.toCards)
    else if has "ibm" then some (Charset.read Charset.toOtherCards) else none
  let table := match target? with
    | some target => cased.map fun c => (target[c.toNat]?).getD c
    | none => cased
  let sign (c : Char) : Char := (target?.bind fun target => target[c.toNat]?).getD c
  { call, settings
    inputBlock := (settings.block <|> settings.inputBlock).getD 512
    outputBlock := (settings.block <|> settings.outputBlock).getD 512
    direct := settings.block.isSome && !changes
    table := if ["ascii", "ebcdic", "ibm", "lcase", "ucase"].any has then some table else none
    newline := sign '\n', space := sign ' '
    lines := if settings.lineBlock = 0 then .none
      else if has "block" || cards then .fill
      else if has "unblock" || has "ascii" then .trim else .none }

/-- The conversion is asked for. -/
def has (plan : Plan) (name : String) : Bool := plan.settings.conversions.contains name

/-- The name of the input, as it is told. -/
def inputName (plan : Plan) : String := plan.settings.input.getD "standard input"

/-- The name of the output, as it is told. -/
def outputName (plan : Plan) : String := plan.settings.output.getD "standard output"

/-- A size with a letter for its multiple, by powers of 1000 or of 1024. -/
def shortSize (base : Nat) (letters : List String) (size : Nat) : String :=
  let rec go (unit : Nat) : List String → String
    | [] => toString size ++ " B"
    | [letter] => show' unit letter
    | letter :: rest => if size < unit * base then show' unit letter else go (unit * base) rest
  if size < base then toString size ++ " B" else go base letters
where
  /-- One place is shown below ten. -/
  show' (unit : Nat) (letter : String) : String :=
    let tenths := (20 * size + unit) / (2 * unit)
    if tenths < 100 then
      toString (tenths / 10) ++ "." ++ toString (tenths % 10) ++ " " ++ letter
    else toString ((2 * size + unit) / (2 * unit)) ++ " " ++ letter

/-- What is told in the end. -/
def report (plan : Plan) (copy : Copy) : String :=
  let records := toString copy.wholeIn ++ "+" ++ toString copy.partIn ++ " records in\n" ++
    toString copy.wholeOut ++ "+" ++ toString copy.partOut ++ " records out\n" ++
    (if copy.truncated = 0 then ""
    else toString copy.truncated ++
      (if copy.truncated = 1 then " truncated record\n" else " truncated records\n"))
  let size := copy.octetsOut
  let thousands := shortSize 1000 ["kB", "MB", "GB", "TB"] size
  let binary := shortSize 1024 ["KiB", "MiB", "GiB", "TiB"] size
  let sizes := if size < 1000 then "" else if size < 1024 then " (" ++ thousands ++ ")"
    else " (" ++ thousands ++ ", " ++ binary ++ ")"
  match plan.settings.telling with
  | .nothing => ""
  | .records => records
  | .all =>
    records ++ toString size ++ (if size = 1 then " byte" else " bytes") ++ sizes ++
      " copied, 0.0001 s, " ++
      (if size = 0 then "0.0 kB/s"
      else shortSize 1000 ["kB", "MB", "GB", "TB"] (10000 * size) ++ "/s") ++ "\n"

/-- Tells what was done and ends, unless the input or the output proper was never there. -/
def quit (plan : Plan) (copy : Copy) (status : Nat) : Job :=
  let refuse (which name : String) : Job :=
    Job.fail plan.call ("closing " ++ which ++ " file " ++ plan.call.quoteName name ++ ": " ++
      SystemFault.badDescriptor.message)
  .look 0 fun input =>
    if input.isNone then refuse "input" plan.inputName
    else
      .look 1 fun output =>
        if output.isNone then refuse "output" plan.outputName
        else Job.complain (plan.report copy) (.exit status)

/-- Complains, tells what was done and ends. -/
def panic (plan : Plan) (copy : Copy) (text : String) : Job :=
  Job.warn plan.call text (plan.quit copy 1)

/-! #### Conversions -/

/-- Lets neighbours change places; an octet without one is saved. -/
def swap (saved : Option Char) (text : List Char) : List Char × Option Char :=
  let (done, saved) := text.foldl (fun (done, saved) c =>
    match saved with
    | none => (done, some c)
    | some before => (before :: c :: done, none)) (([] : List Char), saved)
  (done.reverse, saved)

/-- Fills lines up with blanks. `done` is what comes out, in reverse. -/
def fillLines (plan : Plan) (copy : Copy) (done : List Char) : List Char → Copy × List Char
  | [] => (copy, done)
  | c :: rest =>
    let size := plan.settings.lineBlock
    if c = plan.newline then
      fillLines plan { copy with column := 0 }
        (List.replicate (size - copy.column) plan.space ++ done) rest
    else
      let truncated := if copy.column = size then copy.truncated + 1 else copy.truncated
      let copy' := { copy with truncated, column := copy.column + 1 }
      fillLines plan copy' (if copy.column < size then c :: done else done) rest

/-- Ends lines after so many octets, without the blanks at their end. -/
def trimLines (plan : Plan) (copy : Copy) (done : List Char) : List Char → Copy × List Char
  | [] => (copy, done)
  | c :: rest =>
    let (copy, done) : Copy × List Char := if copy.column ≥ plan.settings.lineBlock then
        ({ copy with column := 0, spaces := 0 }, plan.newline :: done)
      else (copy, done)
    let copy := { copy with column := copy.column + 1 }
    if c = plan.space then trimLines plan { copy with spaces := copy.spaces + 1 } done rest
    else
      trimLines plan { copy with spaces := 0 }
        (c :: (List.replicate copy.spaces plan.space ++ done)) rest

/-- Converts octets into lines or blocks and adds them to what is to be written. -/
def addLines (plan : Plan) (copy : Copy) (text : List Char) : Copy :=
  let (copy, done) : Copy × List Char := match plan.lines with
    | .none => (copy, text.reverse)
    | .fill => plan.fillLines copy [] text
    | .trim => plan.trimLines copy [] text
  { copy with pending := copy.pending ++ String.ofList done.reverse }

/-- Converts a block and adds it to what is to be written. -/
def add (plan : Plan) (copy : Copy) (text : String) : Copy :=
  if plan.table.isNone ∧ !plan.has "swab" ∧ plan.lines = .none then
    { copy with pending := copy.pending ++ text }
  else
    let octets := text.toList
    let octets := match plan.table with
      | some table => octets.map fun c => (table[c.toNat]?).getD c
      | none => octets
    let (octets, saved) := if plan.has "swab" then swap copy.saved octets else (octets, none)
    plan.addLines { copy with saved } octets

/-- Adds what is left when the input is at its end. -/
def settle (plan : Plan) (copy : Copy) : Copy :=
  let copy := match copy.saved with
    | some c => plan.addLines { copy with saved := none } [c]
    | none => copy
  match plan.lines with
  | .none => copy
  | .fill =>
    if copy.column = 0 then copy
    else
      let blanks := List.replicate (plan.settings.lineBlock - copy.column) plan.space
      { copy with pending := copy.pending ++ String.ofList blanks }
  | .trim => if copy.column = 0 then copy else { copy with pending := copy.pending.push plan.newline }

/-! #### Reading and writing -/

/-- What is said where the output cannot be written. -/
def writeComplaint (plan : Plan) (fault : SystemFault) : String :=
  "error writing " ++ plan.call.quoteName plan.outputName ++ ": " ++ fault.message

/-- Writes the whole blocks that are pending. -/
def writeBlocks (plan : Plan) (copy : Copy) (next : Copy → Job) : Job :=
  let count := copy.pending.length / plan.outputBlock
  if count = 0 then next copy
  else
    let size := count * plan.outputBlock
    .write 1 (copy.pending.take size).toString fun fault =>
      match fault with
      | some fault => plan.panic copy (plan.writeComplaint fault)
      | none =>
        next { copy with
          wholeOut := copy.wholeOut + count, octetsOut := copy.octetsOut + size
          pending := (copy.pending.drop size).toString }

/-- Writes what is left, and ends. -/
def writeRest (plan : Plan) (copy : Copy) (status : Nat) : Job :=
  if copy.pending = "" then plan.quit copy status
  else
    .write 1 copy.pending fun fault =>
      match fault with
      | some fault => plan.panic copy (plan.writeComplaint fault)
      | none =>
        plan.quit { copy with
          partOut := copy.partOut + 1, octetsOut := copy.octetsOut + copy.pending.length } status

/-- Warns of the piece that was read before, if it was too small. -/
def warnPart (plan : Plan) (size : Nat) (copy : Copy) (read : Nat) (next : Copy → Job) : Job :=
  if read = 0 ∨ !copy.warns then next copy
  else if 0 < copy.lastRead ∧ copy.lastRead < size then
    let job := next { copy with warns := false, lastRead := read }
    if plan.settings.telling = .nothing then job
    else
      Job.warn plan.call ("warning: partial read (" ++ toString copy.lastRead ++
        (if copy.lastRead = 1 then " byte" else " bytes") ++ "); suggest iflag=fullblock") job
  else next { copy with lastRead := read }

/-- Reads a block, or what there is of one. -/
def readBlock (plan : Plan) (size : Nat) (copy : Copy)
    (next : Copy → Except SystemFault String → Job) : Job :=
  if plan.settings.inputFlags.contains "fullblock" then
    let rec gather (done : String) : (measure : Nat) → Job
      | 0 => next copy (.ok done)
      | measure + 1 =>
        if done.length ≥ size then next copy (.ok done)
        else
          .read 0 (size - done.length) fun text =>
            match text with
            | .ok "" => next copy (.ok done)
            | .ok text => gather (done ++ text) measure
            | .error fault => next copy (.error fault)
    gather "" mostReads
  else
    .read 0 size fun text =>
      match text with
      | .ok text => plan.warnPart size copy text.length fun copy => next copy (.ok text)
      | .error fault => next copy (.error fault)

/-- Copies block by block, at most so many whole blocks and so many octets after them. -/
def run (plan : Plan) (most : Option (Nat × Nat)) : (measure : Nat) → Copy → Job
  | 0, copy => plan.quit copy 0
  | measure + 1, copy =>
    let seen := copy.wholeIn + copy.partIn
    let finish (copy : Copy) (status : Nat) : Job :=
      plan.writeBlocks (plan.settle copy) fun copy => plan.writeRest copy status
    let wanted : Option Nat := match most with
      | none => some plan.inputBlock
      | some (records, octets) =>
        if seen < records then some plan.inputBlock
        else if seen = records ∧ octets > 0 then some octets else none
    match wanted with
    | none => finish copy 0
    | some size =>
      plan.readBlock size copy fun copy text =>
        match text with
        | .error fault =>
          Job.warn plan.call ("error reading " ++ plan.call.quoteName plan.inputName ++ ": " ++
            fault.message) (finish copy 1)
        | .ok "" => finish copy 0
        | .ok text =>
          let isPart := text.length < plan.inputBlock
          let copy := if isPart then { copy with partIn := copy.partIn + 1 }
            else { copy with wholeIn := copy.wholeIn + 1 }
          let text := if isPart ∧ plan.has "sync" then
              text ++ String.ofList (List.replicate (plan.inputBlock - text.length)
                (if plan.lines = .none then '\x00' else ' '))
            else text
          if plan.direct then
            .write 1 text fun fault =>
              match fault with
              | some fault => plan.panic copy (plan.writeComplaint fault)
              | none =>
                let copy := { copy with octetsOut := copy.octetsOut + text.length }
                run plan most measure (if text.length = plan.inputBlock then
                    { copy with wholeOut := copy.wholeOut + 1 }
                  else { copy with partOut := copy.partOut + 1 })
          else plan.writeBlocks (plan.add copy text) (run plan most measure)

/-- A number of blocks or octets as whole blocks and octets after them. -/
def inBlocks (block : Nat) (inOctets : Bool) (n : Nat) : Nat × Nat :=
  if inOctets then (n / block, n % block) else (n, 0)

/-- Reads blocks that are passed over, and then octets, where the input cannot be moved in; `next`
learns whether fewer octets than were wanted came by. -/
def passOver (plan : Plan) (wanted : Nat) (next : Copy → (fell : Bool) → Job) :
    (measure : Nat) → (blocks octets passed : Nat) → Copy → Job
  | 0, _, _, _, copy => next copy false
  | measure + 1, blocks, octets, passed, copy =>
    if blocks = 0 ∧ octets = 0 then next copy (passed < wanted)
    else
      plan.readBlock (if blocks > 0 then plan.inputBlock else octets) copy fun copy text =>
        match text with
        | .error fault =>
          plan.panic copy ("error reading " ++ plan.call.quoteName plan.inputName ++ ": " ++
            fault.message)
        | .ok "" => next copy true
        | .ok text =>
          passOver plan wanted next measure (blocks - 1) (if blocks > 0 then octets else 0)
            (passed + text.length) copy

/-- Passes over what the settings leave out of the input. -/
def skipInput (plan : Plan) (copy : Copy) (next : Copy → Job) : Job :=
  let (n, inOctets) := plan.settings.skip
  let (blocks, octets) :=
    inBlocks plan.inputBlock (inOctets || plan.settings.inputFlags.contains "skip_bytes") n
  let wanted := blocks * plan.inputBlock + octets
  let goOn (copy : Copy) (fell : Bool) : Job :=
    if fell ∧ plan.settings.telling ≠ .nothing then
      Job.warn plan.call
        (plan.call.quoteTitle plan.inputName ++ ": cannot skip to specified offset") (next copy)
    else next copy
  if wanted = 0 then next copy
  else
    .look 0 fun (opened : Option OpenFile) =>
      let offset := (opened.map (·.offset)).getD 0
      let channel : Option Channel := opened.map (·.channel)
      match channel with
      | some (.file number) =>
        .disk fun disk _ =>
          let size := ((disk.find? number).map (·.size)).getD 0
          let left := size - offset
          (disk, .skip 0 (min left wanted) fun _ => goOn copy (left < wanted))
      | some .null | some .zero | some .full => next copy
      | _ => plan.passOver wanted goOn mostReads blocks octets 0 copy

/-- Where the output begins: blocks, and octets after them. -/
def start (plan : Plan) : Nat × Nat :=
  let (n, inOctets) := plan.settings.seek
  inBlocks plan.outputBlock (inOctets || plan.settings.outputFlags.contains "seek_bytes") n

/-- Moves to where the output begins. -/
def seekOutput (plan : Plan) (copy : Copy) (next : Copy → Job) : Job :=
  let (blocks, octets) := plan.start
  let wanted := blocks * plan.outputBlock + octets
  if wanted = 0 then next copy
  else
    .look 1 fun opened =>
      let channel : Option Channel := opened.map (·.channel)
      match channel with
      | some (.file _) => .skip 1 wanted fun _ => next copy
      | some .null | some .zero | some .full => next copy
      | some _ =>
        plan.panic copy (plan.call.quoteTitle plan.outputName ++ ": cannot seek: Illegal seek")
      | none =>
        plan.panic copy (plan.call.quoteTitle plan.outputName ++ ": cannot seek: " ++
          SystemFault.badDescriptor.message)

/-- Makes the copy. -/
def copy (plan : Plan) : Job :=
  let flags := plan.settings.inputFlags
  let most : Option (Nat × Nat) := plan.settings.count.map fun (n, inOctets) =>
    inBlocks plan.inputBlock (inOctets || flags.contains "count_bytes") n
  let warns := plan.settings.block.isSome && plan.direct && !flags.contains "fullblock" &&
    (plan.settings.skip.1 > 0 || most.any fun (records, _) => records > 0)
  plan.skipInput { warns } fun copy => plan.seekOutput copy fun copy =>
    plan.run most mostReads copy

/-- Lets a descriptor lead where another one does, which is given up. -/
def take (descriptor source : Nat) (next : Job) : Job :=
  if descriptor = source then next else .direct descriptor source (.close source next)

/-- Opens the output, and makes it as long as what is passed over in it. -/
def openOutput (plan : Plan) (next : Job) : Job :=
  match plan.settings.output with
  | none => next
  | some name =>
    let refuse (fault : SystemFault) : Job :=
      Job.fail plan.call ("failed to open " ++ plan.call.quoteName name ++ ": " ++ fault.message)
    let (blocks, octets) := plan.start
    let manner : Sys.Manner :=
      { writes := true, creates := !plan.has "nocreat", truncates := blocks = 0 && !plan.has "notrunc"
        appends := plan.settings.outputFlags.contains "append" }
    .disk fun disk stand =>
      let isThere : Bool := match disk.inspect stand.directory name with
        | .ok _ => true
        | .error _ => false
      (disk,
        if plan.has "excl" ∧ isThere then refuse .exists
        else
          .open name manner fun opened =>
            match opened with
            | .error fault => refuse fault
            | .ok descriptor =>
              take 1 descriptor <| .disk fun disk stand =>
                let size := blocks * plan.outputBlock + octets
                let disk : Disk := match disk.inspect stand.directory name with
                  | .ok (number, { body := .octets content, .. }) =>
                    if blocks = 0 ∨ plan.has "notrunc" then disk
                    else
                      disk.write stand.moment number ((content.take size).toString ++
                        String.ofList (List.replicate (size - content.length) '\x00'))
                  | _ => disk
                (disk, next))

/-- Opens the input. -/
def openInput (plan : Plan) (next : Job) : Job :=
  match plan.settings.input with
  | none => next
  | some name =>
    .open name { reads := true } fun opened =>
      match opened with
      | .error fault =>
        Job.fail plan.call ("failed to open " ++ plan.call.quoteName name ++ ": " ++ fault.message)
      | .ok descriptor => take 0 descriptor next

end Plan

/-- The setting is a number that an `x` makes zero, as if it were a mark of hexadecimal digits. -/
def isSuspect (arg : String) : Bool :=
  let name := (arg.takeWhile (· != '=')).toString
  let value := (arg.drop (name.length + 1)).toString
  let isZero : Bool := match number? (value.length + 1) value.toList with
    | .ok 0 => true
    | _ => false
  value.startsWith "0x" && isZero &&
    !(["if", "of", "conv", "iflag", "oflag", "status"].contains name)

/-- Takes settings one after another, and warns of those that seem to be meant otherwise. -/
def Settings.gather (call : Invocation) (settings : Settings)
    (next : Settings → Option Fault → Job) : List String → Job
  | [] => next settings none
  | arg :: rest =>
    let take : Job := match settings.add arg with
      | .ok settings => gather call settings next rest
      | .error fault => next settings (some fault)
    if isSuspect arg then
      Job.warn call ("warning: " ++ call.quote "0x" ++ " is a zero multiplier; use " ++
        call.quote "00x" ++ " if that is intended") take
    else take

end Utility.Blocks

namespace Utility

open Blocks

/-- The program `dd`. -/
def dd : Utility := fun call =>
  ({ letters := "" } : Accepted).read call 1 fun arguments =>
    let refuse (text : String) (hints : Bool) : Job :=
      if hints then Job.misuse call text else Job.fail call text
    ({} : Blocks.Settings).gather call (fun settings fault =>
      match fault with
      | some fault =>
        let (text, hints) := fault.message call
        refuse text hints
      | none =>
        if settings.outputFlags.contains "fullblock" then
          refuse ("invalid output flag: " ++ call.quote "fullblock") true
        else
          match settings.conflict? with
          | some complaint => refuse complaint false
          | none =>
            let plan := Plan.ofSettings call settings
            plan.openInput (plan.openOutput plan.copy)) arguments.operands

end Utility

end ArtifactLens.Shell
