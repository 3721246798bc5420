import ArtifactLens.Shell.Utility.Filtering
import ArtifactLens.Shell.Utility.Launching

/-!
# Splitting an input

The program `split` cuts its input into pieces (`Cut.pieces`) and puts each of them into a file of its own,
or hands it to a command. The names of the files come one after another, each with the next suffix
(`Suffix.next?`).
-/

namespace ArtifactLens.Shell

namespace Utility

namespace Splitting

/-! ### Names -/

/-- A name with a suffix: what stands before the suffix, its signs by their places in the alphabet, and
what stands behind it. -/
structure Suffix where
  alphabet : List Char := "abcdefghijklmnopqrstuvwxyz".toList
  stem : String
  places : List Nat
  ending : String := ""
  /-- Suffixes become longer before they run out. -/
  grows : Bool := true

namespace Suffix

/-- The name. -/
def name (suffix : Suffix) : String :=
  suffix.stem ++ String.ofList (suffix.places.map fun place => suffix.alphabet.getD place ' ') ++
    suffix.ending

/-- The places of the next suffix of the same length, from the last one on; whether it is past the last
suffix. -/
def advance (base : Nat) : List Nat → List Nat × Bool
  | [] => ([], true)
  | place :: rest =>
    let (rest, carries) := advance base rest
    if carries then
      if place + 1 < base then ((place + 1) :: rest, false) else (0 :: rest, true)
    else (place :: rest, false)

/-- The next name, if there is one. Where suffixes may grow, the last sign of the alphabet does not stand
in front, but one more sign follows it. -/
def next? (suffix : Suffix) : Option Suffix :=
  let base := suffix.alphabet.length
  let (places, isPast) := advance base suffix.places
  if suffix.grows ∧ places.head? = some (base - 1) then
    some { suffix with
      stem := suffix.stem.push (suffix.alphabet.getD (base - 1) ' ')
      places := List.replicate (suffix.places.length + 1) 0 }
  else if isPast then none
  else some { suffix with places }

end Suffix

/-! ### Pieces -/

/-- How an input is cut. -/
inductive Cut where
  /-- So many lines each. -/
  | lines (count : Nat)
  /-- So many octets each. -/
  | octets (count : Nat)
  /-- As many whole lines as fit into so many octets. -/
  | wholeLines (size : Nat)
  /-- So many pieces of equal size, or only one of them. -/
  | chunks (count : Nat) (only : Option Nat)
  /-- So many pieces of about equal size that hold whole lines, or only one of them. -/
  | lineChunks (count : Nat) (only : Option Nat)
  /-- So many pieces, to which lines go by turns, or only one of them. -/
  | turns (count : Nat) (only : Option Nat)

/-- The lines of a text together with the marks that end them. -/
def linesWith (mark : Char) (text : String) : List String :=
  let lines := text.splitOn (String.singleton mark)
  let whole := lines.dropLast.map (·.push mark)
  match lines.getLast? with
  | some "" | none => whole
  | some rest => whole ++ [rest]

/-- Lines put together, so many at a time. -/
def grouped (count : Nat) : (measure : Nat) → List String → List String
  | 0, _ | _, [] => []
  | measure + 1, lines => String.join (lines.take count) :: grouped count measure (lines.drop count)

/-- Pieces of a text of a size; the last one may be smaller. -/
def bySize (size : Nat) : (measure : Nat) → List Char → List String
  | 0, _ | _, [] => []
  | measure + 1, text => String.ofList (text.take size) :: bySize size measure (text.drop size)

/-- Pieces of a text that end with a line, unless that makes them too large. -/
def byLines (mark : Char) (size : Nat) : (measure : Nat) → List Char → List String
  | 0, _ | _, [] => []
  | measure + 1, text =>
    let piece := text.take size
    if piece.length < size then [String.ofList text]
    else
      let whole := (piece.reverse.dropWhile (· != mark)).reverse
      let piece := if whole.isEmpty then piece else whole
      String.ofList piece :: byLines mark size measure (text.drop piece.length)

/-- So many pieces of equal size, the last of which takes the rest. -/
def evenly (count : Nat) (text : List Char) : List String :=
  let size := max count text.length / count
  let rec go (text : List Char) : Nat → List String
    | 0 => []
    | 1 => [String.ofList text]
    | left + 1 => String.ofList (text.take size) :: go (text.drop size) left
  go text count

/-- So many pieces, each of which ends with the line that reaches over the end of its share of the text.
`place` is where the text begins, and `number` is the number of the next piece. -/
def evenlyByLines (mark : Char) (count whole : Nat) : (left : Nat) → Nat → List Char → List String
  | 0, _, _ => []
  | left + 1, place, text =>
    let number := count - left
    let share := whole / count
    let stop := if number = count then whole - 1 else number * share - 1
    if place > stop then "" :: evenlyByLines mark count whole left place text
    else
      let before := text.take (stop - place)
      let after := text.drop (stop - place)
      let line := after.takeWhile (· != mark)
      let piece := before ++ line ++ (after.drop line.length).take 1
      String.ofList piece ::
        evenlyByLines mark count whole left (place + piece.length) (text.drop piece.length)

/-- The lines that come by turns to one of so many pieces. -/
def byTurns (count turn : Nat) (lines : List String) : String :=
  String.join ((lines.zipIdx.filter fun (_, index) => index % count == turn).map (·.1))

namespace Cut

/-- What is shown of one piece alone, if that is all that is wanted. -/
def only? (cut : Cut) : Option Nat :=
  match cut with
  | .chunks _ only | .lineChunks _ only | .turns _ only => only
  | _ => none

/-- How many pieces are asked for. -/
def count? (cut : Cut) : Option Nat :=
  match cut with
  | .chunks count _ | .lineChunks count _ | .turns count _ => some count
  | _ => none

/-- The size of the input must be known beforehand. -/
def needsSize (cut : Cut) : Bool :=
  match cut with
  | .chunks .. | .lineChunks .. => true
  | _ => false

/-- The pieces of a text. -/
def pieces (cut : Cut) (mark : Char) (text : String) : List String :=
  let size := text.length
  match cut with
  | .lines count =>
    let lines := linesWith mark text
    grouped count (lines.length + 1) lines
  | .octets count => bySize count (size + 1) text.toList
  | .wholeLines count => byLines mark count (size + 1) text.toList
  | .chunks count _ => evenly count text.toList
  | .lineChunks count _ => evenlyByLines mark count (max count size) count 0 text.toList
  | .turns count _ =>
    let lines := linesWith mark text
    (List.range count).map fun turn => byTurns count turn lines

end Cut

/-! ### Options -/

/-- What was asked for. -/
structure Orders where
  cut : Option Cut := none
  /-- A number of lines that digits alone stand for. -/
  digits : Option Nat := none
  mark : Option Char := none
  suffixLength : Nat := 0
  ending : String := ""
  alphabet : Option String := none
  start : Option String := none
  sparesEmpty : Bool := false
  tells : Bool := false
  command : Option String := none

/-- The options of `split`. -/
def accepted : Accepted :=
  { letters := "0123456789C:a:b:del:n:t:uxα:φ:ττι:"
    attached := "δξ"
    bare := [('δ', 'd'), ('ξ', 'x')]
    names := [("bytes", 'b'), ("lines", 'l'), ("line-bytes", 'C'), ("number", 'n'),
      ("elide-empty-files", 'e'), ("unbuffered", 'u'), ("suffix-length", 'a'),
      ("additional-suffix", 'α'), ("numeric-suffixes", 'δ'), ("hex-suffixes", 'ξ'), ("filter", 'φ'),
      ("verbose", 'τ'), ("separator", 't'), ("-io-blksize", 'ι')] }

/-- A number that an option is given. -/
def number (call : Invocation) (letters noun : String) (least most : Nat) (text : String) :
    Except Job Nat :=
  match Amount.within letters false least most text with
  | .ok value => .ok value.toNat
  | .error fault => .error (Job.fail call (Amount.complaint call noun text fault))

/-- The signs of suffixes that are numbers. -/
def decimals : String := "0123456789"

/-- Takes a way to split, which must be the only one. -/
def Orders.choose (call : Invocation) (orders : Orders) (cut : Except Job Cut) :
    Except Job Orders := do
  if orders.cut.isSome ∨ orders.digits.isSome then
    throw (Job.misuse call "cannot split in more than one way")
  return { orders with cut := some (← cut) }

/-- Reads what the option for a number of pieces is given. -/
def chunksOf (call : Invocation) (text : String) : Except Job Cut := do
  let text := String.ofList (text.toList.dropWhile Arithmetic.isSpace)
  let (kind, rest) :=
    if text.startsWith "r/" then ('r', (text.drop 2).toString)
    else if text.startsWith "l/" then ('l', (text.drop 2).toString)
    else ('c', text)
  let first := (rest.takeWhile (· != '/')).toString
  let isSlashed := first.length < rest.length
  let count := if isSlashed then (rest.drop (first.length + 1)).toString else rest
  let count ← number call "" "invalid number of chunks" 1 Amount.greatest count
  let only ← if isSlashed ∧ first ≠ "" then
      (number call "" "invalid chunk number" 1 count first).map some
    else pure none
  return match kind with
    | 'r' => .turns count only
    | 'l' => .lineChunks count only
    | _ => .chunks count only

/-- Takes where numbers of suffixes start. -/
def Orders.startAt (call : Invocation) (orders : Orders) (alphabet kind start : String) :
    Except Job Orders := do
  if !start.toList.all fun c => alphabet.contains c then
    throw (Job.misuse call (call.quote start ++ ": invalid start value for " ++ kind ++ " suffix"))
  let trimmed := start.toList.dropWhile (· == '0')
  let start := if trimmed.isEmpty then start.toList.take 1 else trimmed
  return { orders with alphabet := some alphabet, start := some (String.ofList start) }

/-- Takes one more option. -/
def Orders.add (call : Invocation) (orders : Orders) (option : Char × String) : Except Job Orders := do
  let (letter, value) := option
  let most := 2 ^ 63 - 1
  let multiples := "bEGKkMmPTYZ0"
  match letter with
  | 'a' =>
    return { orders with
      suffixLength := ← number call "" "invalid suffix length" 0 (Amount.greatest / 8) value }
  | 'α' =>
    if value.contains '/' then
      throw (Job.misuse call ("invalid suffix " ++ call.quote value ++
        ", contains directory separator"))
    return { orders with ending := value }
  | 'b' =>
    orders.choose call ((number call multiples "invalid number of bytes" 1 most value).map .octets)
  | 'l' =>
    orders.choose call
      ((number call "" "invalid number of lines" 1 Amount.greatest value).map .lines)
  | 'C' =>
    orders.choose call
      ((number call multiples "invalid number of bytes" 1 most value).map .wholeLines)
  | 'n' => orders.choose call (chunksOf call value)
  | 't' =>
    let mark ← match value.toList with
      | [] => throw (Job.fail call "empty record separator")
      | [mark] => pure mark
      | ['\\', '0'] => pure '\x00'
      | _ => throw (Job.fail call ("multi-character separator " ++ call.quote value))
    if orders.mark.any (· != mark) then
      throw (Job.fail call "multiple separator characters specified")
    return { orders with mark := some mark }
  | 'd' => return { orders with alphabet := some decimals }
  | 'x' => return { orders with alphabet := some (decimals ++ "abcdef") }
  | 'δ' => orders.startAt call decimals "numerical" value
  | 'ξ' => orders.startAt call (decimals ++ "abcdef") "hexadecimal" value
  | 'e' => return { orders with sparesEmpty := true }
  | 'φ' => return { orders with command := some value }
  | 'τ' => return { orders with tells := true }
  | 'ι' =>
    let _ ← number call multiples "invalid IO block size" 1 Amount.greatest value
    return orders
  | letter =>
    if !letter.isDigit then return orders
    else if orders.cut.isSome then throw (Job.misuse call "cannot split in more than one way")
    else
      let digits := orders.digits.getD 0
      let longer := 10 * digits + (letter.toNat - '0'.toNat)
      if longer > Amount.greatest then
        throw (Job.fail call ("line count option -" ++ toString digits ++ String.singleton letter ++
          "... is too large"))
      return { orders with digits := some longer }

/-- How many signs it takes to number so many pieces. -/
def signsFor (base count : Nat) : Nat :=
  if base < 2 ∨ count < base then 1 else 1 + signsFor base (count / base)
  termination_by count
  decreasing_by exact Nat.div_lt_self (by omega) (by omega)

/-- The way to split and the first name for what comes out. -/
def Orders.plan (call : Invocation) (orders : Orders) (operands : List String) :
    Except Job (Cut × Suffix) := do
  let stem := operands.getD 1 "x"
  let cut := match orders.cut, orders.digits with
    | some cut, _ => cut
    | none, some count => .lines count
    | none, none => .lines 1000
  if cut.only?.isSome ∧ orders.command.isSome then
    throw (Job.misuse call "--filter does not process a chunk extracted to stdout")
  if orders.cut.isNone ∧ orders.digits = some 0 then
    throw (Job.misuse call ("invalid number of lines: " ++ call.quote "0"))
  let alphabet := (orders.alphabet.map String.toList).getD ({ stem, places := [] } : Suffix).alphabet
  let needed := match cut.count? with
    | none => 0
    | some count =>
      let started := match orders.start.filter fun text => text != "" && text.toList.all Char.isDigit with
        | some text => if Digit.numeral text.toList < count then Digit.numeral text.toList else 0
        | none => 0
      signsFor alphabet.length (count - 1 + started)
  if orders.suffixLength ≠ 0 ∧ orders.suffixLength < needed then
    throw (Job.fail call ("the suffix length needs to be at least " ++ toString needed))
  let length := if orders.suffixLength ≠ 0 then orders.suffixLength else max 2 needed
  let start := (orders.start.getD "").toList
  if let some extra := operands[2]? then
    throw (Job.misuse call ("extra operand " ++ call.quote extra))
  if start.length > length then
    throw (Job.misuse call "numerical suffix start value is too large for the suffix length")
  let places := List.replicate (length - start.length) 0 ++ start.map fun c => alphabet.idxOf c
  let grows := orders.start.isNone && cut.count?.isNone && orders.suffixLength == 0
  return (cut, { alphabet, stem, places, ending := orders.ending, grows })

/-! ### Writing pieces -/

/-- Hands a piece to a command, to which the name is known as `FILE`. -/
def feed (call : Invocation) (command name piece : String) (ignored : List Nat)
    (next : Option Ending → Job) : Job :=
  let shell := (call.value? "SHELL").getD "/bin/sh"
  let environment := (call.environment.filter (·.1 != "FILE")) ++ [("FILE", name)]
  let start : Job := .become shell [(shell.splitOn "/").getLastD "", "-c", command] environment
    fun fault => Job.fail call ("failed to run command: \"" ++ shell ++ " -c " ++ command ++ "\": " ++
      fault.message)
  .pipe fun reader writer =>
    .spawn (.close writer <| .direct 0 reader <| .close reader <|
      .regard (fun signals => { signals with ignored }) fun _ => start) false fun process =>
        .close reader <| .write writer piece fun _ => .close writer <| .await process none next

/-- The number of the signal that tells that nobody reads. -/
def brokenPipe : Nat := 13

/-- Puts pieces away one after another. -/
def putAway (call : Invocation) (orders : Orders) (input : Option Channel) (ignored : List Nat) :
    List String → Option Suffix → Progress Unit → Job
  | [], _, progress => progress.exit call 0
  | piece :: rest, suffix, progress =>
    if piece = "" ∧ orders.sparesEmpty then
      putAway call orders input ignored rest suffix progress
    else
      match suffix with
      | none => progress.fail call "output file suffixes exhausted"
      | some suffix =>
        let name := suffix.name
        let goOn (progress : Progress Unit) : Job :=
          putAway call orders input ignored rest suffix.next? progress
        match orders.command with
        | some command =>
          let told := if orders.tells then "executing with FILE=" ++ call.quoteTitle name ++ "\n" else ""
          progress.put told fun progress =>
            feed call command name piece ignored fun ending =>
              let blame (what : String) (status : Nat) : Job :=
                progress.fail call ("with FILE=" ++ call.quoteTitle name ++ ", " ++ what ++
                  " from command: " ++ command) status
              match ending with
              | some (.signal number) =>
                if number = brokenPipe then goOn progress
                else blame ("signal " ++ Signal.title number) (number + 128)
              | some (.exit 0) | none => goOn progress
              | some (.exit status) => blame ("exit " ++ toString status) status
        | none =>
          let told := if orders.tells then "creating file " ++ call.quoteName name ++ "\n" else ""
          progress.put told fun progress =>
            .disk fun disk stand =>
              let isInput : Bool := match disk.inspect stand.directory name, input with
                | .ok (number, _), some channel => channel == .file number
                | _, _ => false
              let blame (fault : SystemFault) : Job :=
                progress.fail call (call.quoteTitle name ++ ": " ++ fault.message)
              let manner : Sys.Manner := { writes := true, creates := true, truncates := true }
              (disk,
                if isInput then
                  progress.fail call (call.quoteName name ++ " would overwrite input; aborting")
                else
                  .open name manner fun opened =>
                    match opened with
                    | .error fault => blame fault
                    | .ok descriptor =>
                      .write descriptor piece fun fault =>
                        match fault with
                        | some fault => blame fault
                        | none => .close descriptor (goOn progress))

/-- Splits what a descriptor gives. -/
def splitFrom (call : Invocation) (orders : Orders) (cut : Cut) (suffix : Suffix) (name : String)
    (descriptor : Nat) : Job :=
  let title := call.quoteTitle name
  let sizeless := title ++ ": cannot determine file size"
  .look descriptor fun opened =>
    match opened with
    | none => Job.fail call (title ++ ": " ++ SystemFault.badDescriptor.message)
    | some opened =>
      let isSized : Bool := match opened.channel with
        | .file _ | .directory _ | .null => true
        | _ => false
      if cut.needsSize ∧ opened.channel = .zero then
        Job.fail call (sizeless ++ ": Value too large for defined data type")
      else if cut.needsSize ∧ !isSized then Job.fail call sizeless
      else
        Job.slurp descriptor fun text =>
          match text with
          | .error fault =>
            Job.fail call ((if cut.needsSize then sizeless else title) ++ ": " ++ fault.message)
          | .ok text =>
            let pieces := cut.pieces (orders.mark.getD '\n') text
            match cut.only? with
            | some number => Job.answer call (pieces.getD (number - 1) "")
            | none =>
              let run (ignored : List Nat) : Job :=
                putAway call orders (some opened.channel) ignored pieces (some suffix) { state := () }
              if orders.command.isNone then run []
              else
                .regard (fun signals => signals) fun signals =>
                  let ignored := signals.ignored
                  .regard (fun signals =>
                    { signals with ignored := brokenPipe :: signals.ignored.erase brokenPipe })
                    fun _ => run ignored

end Splitting

/-- The program `split`. -/
def split : Utility := fun call =>
  let read (arguments : Arguments) : Except Job Splitting.Orders :=
    arguments.options.foldlM (Splitting.Orders.add call) {}
  Splitting.accepted.read call 1 (fun arguments =>
    let job : Except Job Job := do
      let orders ← read arguments
      let (cut, suffix) ← orders.plan call arguments.operands
      let name := arguments.operands.headD "-"
      return if name = "-" then Splitting.splitFrom call orders cut suffix name 0
        else
          .open name { reads := true } fun opened =>
            match opened with
            | .ok descriptor => Splitting.splitFrom call orders cut suffix name descriptor
            | .error fault =>
              Job.fail call ("cannot open " ++ call.quoteName name ++ " for reading: " ++
                fault.message)
    match job with
    | .ok job | .error job => job)
    fun arguments job =>
      match read arguments with
      | .ok _ => job
      | .error refusal => refusal

end Utility

end ArtifactLens.Shell
