import ArtifactLens.Shell.Utility.Amount
import ArtifactLens.Shell.Utility.Choice
import ArtifactLens.Shell.Utility.Sorting.Order
import ArtifactLens.Text.Columns

/-!
# Sorting

The program `sort` brings the lines of its inputs into order, puts together inputs that are in order, or
looks whether one is. Its options are read one after another into a `SortRequest`, so that the first one
that is wrong is complained about.
-/

namespace ArtifactLens.Shell

namespace Utility

/-! ### Options -/

/-- What is asked for. -/
structure SortRequest where
  /-- How lines are compared where no key says more. -/
  general : KeyManner := {}
  keys : List SortKey := []
  /-- The input is only looked at: the letter that asks for it. -/
  check : Option Char := none
  merges : Bool := false
  target : Option String := none
  separator : Option Char := none
  /-- The file that lists the inputs. -/
  listing : Option String := none
  seedSource : Option String := none
  packer : Option String := none
  isStable : Bool := false
  unique : Bool := false
  mark : Char := '\n'
  explains : Bool := false

namespace SortRequest

/-- The ways of sorting by name. -/
def manners : Choice Char where
  option := "--sort"
  words := [("general-numeric", 'g'), ("human-numeric", 'h'), ("month", 'M'), ("numeric", 'n'),
    ("random", 'R'), ("version", 'V')]

/-- The ways of checking by name. -/
def checks : Choice Char where
  option := "--check"
  words := [("quiet", 'C'), ("silent", 'C'), ("diagnose-first", 'c')]

/-- Refuses a request. -/
def refuse {α : Type} (call : Invocation) (text : String) : Except Job α :=
  .error (Job.fail call text 2)

/-- Refuses options that do not go together. -/
def clash {α : Type} (call : Invocation) (letters : String) : Except Job α :=
  refuse call ("options '-" ++ letters ++ "' are incompatible")

/-- What a word chooses. -/
def choose (call : Invocation) (choice : Choice Char) (word : String) : Except Job Char :=
  match choice.meaning word with
  | .ok letter => .ok letter
  | .error fault => .error (Job.misuse call (choice.complaint call word fault))

/-- Asks for a check. -/
def checking (call : Invocation) (request : SortRequest) (letter : Char) :
    Except Job SortRequest :=
  if request.check.any (· != letter) then clash call "cC"
  else .ok { request with check := some letter }

/-- Takes a key that was read. -/
def withKey (call : Invocation) (text : String) (keys : List SortKey)
    (key : Except SortKey.Fault SortKey) (request : SortRequest) : Except Job SortRequest :=
  match key with
  | .ok key => .ok { request with keys := keys ++ [key] }
  | .error fault => refuse call (fault.message call.quote text)

/-- What is said of a number that an option cannot take. -/
def amountComplaint (option text : String) : Amount.Fault ⊕ Unit → String
  | .inl .invalid => "invalid " ++ option ++ " argument '" ++ text ++ "'"
  | .inr () => "invalid suffix in " ++ option ++ " argument '" ++ text ++ "'"
  | .inl _ => option ++ " argument '" ++ text ++ "' too large"

/-- The number that a text spells with one of some letters for a multiple after it, or with nothing.
A letter alone stands for one of its multiple. -/
def amount (call : Invocation) (option letters text : String) : Except Job Nat :=
  let refuse {α : Type} (fault : Amount.Fault ⊕ Unit) : Except Job α :=
    refuse call (amountComplaint option text fault)
  let take (n : Nat) (suffix : List Char) : Except Job Nat :=
    match suffix with
    | [] => if n ≥ Amount.greatest then refuse (.inl .tooLarge) else .ok n
    | [letter] =>
      let whole := n * 1024 ^ (Amount.power? letter).getD 0
      if !letters.contains letter then refuse (.inr ())
      else if whole ≥ Amount.greatest then refuse (.inl .tooLarge)
      else .ok whole
    | _ => refuse (.inr ())
  match SortKey.number? text.toList, text.toList with
  | some (n, suffix), _ => take n suffix
  | none, letter :: _ =>
    if letters.contains letter ∧ (Amount.power? letter).isSome then take 1 text.toList
    else refuse (.inl .invalid)
  | none, [] => refuse (.inl .invalid)

/-- The most inputs that can be merged at once. -/
def mostInputs : Nat := 1048573

/-- Looks at how many inputs are to be merged at once. -/
def batch (call : Invocation) (text : String) : Except Job Unit := do
  let tooLarge {α : Type} : Except Job α :=
    .error (Job.warn call ("--batch-size argument " ++ call.quote text ++ " too large") <|
      Job.fail call ("maximum --batch-size argument with current rlimit is " ++ toString mostInputs) 2)
  match SortKey.number? text.toList with
  | some (n, []) =>
    if n < 2 then
      .error (Job.warn call ("invalid --batch-size argument " ++ call.quote text) <|
        Job.fail call ("minimum --batch-size argument is " ++ call.quote "2") 2)
    else if n > mostInputs then tooLarge
  | _ => discard <| amount call "--batch-size" "" text

/-- Looks at how much memory is to be taken, which is counted by 1024 where no letter is told. -/
def takeMemory (call : Invocation) (option text : String) : Except Job Unit := do
  let n ← amount call option "EgGkKmMPtTYZb%" text
  if text.toList.getLast?.any Char.isDigit ∧ n * 1024 ≥ 2 ^ 64 then
    refuse call (amountComplaint option text (.inl .tooLarge))

/-- The separator that a text stands for. -/
def separatorOf (call : Invocation) (request : SortRequest) (text : String) :
    Except Job SortRequest :=
  let take (mark : Char) : Except Job SortRequest :=
    if request.separator.any (· != mark) then refuse call "incompatible tabs"
    else .ok { request with separator := some mark }
  match text.toList with
  | [] => refuse call "empty tab"
  | [mark] => take mark
  | _ =>
    if text = "\\0" then take '\x00' else refuse call ("multi-character tab " ++ call.quote text)

/-- Sets what may be told once only. -/
def once (call : Invocation) (before : Option String) (text noun : String) :
    Except Job (Option String) :=
  if before.any (· != text) then refuse call ("multiple " ++ noun ++ " specified")
  else .ok (some text)

/-- The request with another option. -/
def add (call : Invocation) (request : SortRequest) (option : Char × String) :
    Except Job SortRequest := do
  let (letter, text) := option
  match letter with
  | 'σ' =>
    let letter ← choose call manners text
    return { request with general := request.general.add true true letter }
  | 'χ' => checking call request (← if text = "" then pure 'c' else choose call checks text)
  | 'c' | 'C' => checking call request letter
  | 'π' =>
    return { request with packer := ← once call request.packer text "compress programs" }
  | 'δ' => return { request with explains := true }
  | 'λ' => return { request with listing := some text }
  | 'k' => request.withKey call text request.keys (SortKey.parse text)
  | '+' =>
    match SortKey.parseOld? text with
    | some key => return { request with keys := request.keys ++ [key] }
    | none => return request
  | '-' =>
    match request.keys.getLast? with
    | some key => request.withKey call text request.keys.dropLast (key.finishOld text)
    | none => return request
  | 'm' => return { request with merges := true }
  | 'β' =>
    batch call text
    return request
  | 'o' => return { request with target := ← once call request.target text "output files" }
  | 'ρ' =>
    return { request with seedSource := ← once call request.seedSource text "random sources" }
  | 's' => return { request with isStable := true }
  | 'S' =>
    takeMemory call "-S" text
    return request
  | 'ς' =>
    takeMemory call "--buffer-size" text
    return request
  | 't' => separatorOf call request text
  | 'φ' =>
    match SortKey.number? text.toList with
    | some (n, []) =>
      if n = 0 then refuse call "number in parallel must be nonzero"
      else if n ≥ Amount.greatest then refuse call "memory exhausted"
      else return request
    | _ =>
      discard <| amount call "--parallel" "" text
      return request
  | 'u' => return { request with unique := true }
  | 'z' => return { request with mark := '\x00' }
  | letter => return { request with general := request.general.add true true letter }

/-- The options of the program. -/
def accepted : Accepted where
  letters := "bcCdfghik:mMno:rRsS:t:T:uVy:zσ:χπ:δλ:β:ρ:ς:φ:"
  attached := "χ"
  isSigned := fun text => text.startsWith "+" && (SortKey.parseOld? text).isSome
  names := [("ignore-leading-blanks", 'b'), ("check", 'χ'), ("compress-program", 'π'),
    ("debug", 'δ'), ("dictionary-order", 'd'), ("ignore-case", 'f'), ("files0-from", 'λ'),
    ("general-numeric-sort", 'g'), ("ignore-nonprinting", 'i'), ("key", 'k'), ("merge", 'm'),
    ("month-sort", 'M'), ("numeric-sort", 'n'), ("human-numeric-sort", 'h'), ("version-sort", 'V'),
    ("random-sort", 'R'), ("random-source", 'ρ'), ("sort", 'σ'), ("output", 'o'), ("reverse", 'r'),
    ("stable", 's'), ("batch-size", 'β'), ("buffer-size", 'ς'), ("field-separator", 't'),
    ("temporary-directory", 'T'), ("unique", 'u'), ("zero-terminated", 'z'), ("parallel", 'φ')]

/-- The keys that are compared: those that say nothing of themselves are compared in the general
manner, which is that of the whole line where there are none. -/
def resolvedKeys (request : SortRequest) : List SortKey :=
  if request.keys.isEmpty then
    if request.general.isPlain then [] else [{ manner := request.general }]
  else request.keys.map fun key =>
    if key.manner.isPlain ∧ !key.manner.reversed then { key with manner := request.general } else key

/-- The order of lines that is asked for. -/
def order (request : SortRequest) (isLocal : Bool) (seed : String) : SortOrder where
  keys := request.resolvedKeys
  separator := request.separator
  isStable := request.isStable
  unique := request.unique
  reversed := request.general.reversed
  isLocal
  seed

end SortRequest

/-! ### Explaining -/

namespace SortRequest

/-- Where the characters that count of a key begin in a line and where they end. -/
def extent (separator : Option Char) (key : SortKey) (line : List Char) : Nat × Nat :=
  let start := if key.fromStart then 0 else key.startAt separator line
  let stop := max start (key.finishAt separator line)
  let manner := key.manner
  if (manner.skipsBlanks ∧ key.fromStart) ∨ manner.reads .month ∨ manner.isNumeric then
    let blanks := ((line.drop start).takeWhile isFieldGap).length
    let first := start + blanks
    let text := (line.take stop).drop first
    let used : Nat :=
      if manner.reads .month then (if monthNumber text = 0 then 0 else 3)
      else if manner.reads .general then
        ((Conversion.readFloat text).map fun numeral => text.length - numeral.rest.length).getD 0
      else if manner.isNumeric then
        let number := leadingNumber text
        let body := match text with
          | '-' :: rest => rest
          | _ => text
        let shown := text.length - number.rest.length
        if (body.takeWhile fun c => c.isDigit || c == '.').any Char.isDigit ∧ shown > 0 then
          shown + (if manner.reads .human ∧ sizeRank number.rest.head? > 0 then 1 else 0)
        else 0
      else text.length
    if stop < first then (first, stop) else (first, first + used)
  else (start, stop)

/-- How many columns a text takes; tabs are shown as one character. -/
def columns (call : Invocation) (text : List Char) : Nat :=
  let width (unit : Nat) : Nat :=
    if unit = '\t'.toNat then 1
    else if unit ≥ OctetText.strayBase ∨ ¬ call.isUtf8 then 1
    else Columns.width (Char.ofNat unit)
  (call.glyphs text).foldl (fun columns unit => columns + width unit) 0

/-- A line with marks under what counts of its keys. -/
def explained (call : Invocation) (order : SortOrder) (text : String) : String :=
  let line := text.toList
  let mark (start stop : Nat) : String :=
    let indent := String.ofList (List.replicate (columns call (line.take start)) ' ')
    let width := columns call ((line.take stop).drop start)
    indent ++ (if width = 0 then "^ no match for key\n"
      else String.ofList (List.replicate width '_') ++ "\n")
  let keys := order.keys.map fun key =>
    let (start, stop) := extent order.separator key line
    mark start stop
  let whole := if order.keys.isEmpty ∨ !(order.isStable || order.unique) then [mark 0 line.length] else []
  text.map (fun c => if c = '\t' then '>' else c) ++ "\n" ++ String.join (keys ++ whole)

/-- The beginning of a key that was spelled with signs, and its spelling without them. -/
def oldSpelling (key : SortKey) : String × String :=
  let start := "+" ++ toString key.startField
  let modern := "-k " ++ toString (key.startField + 1)
  match key.finish with
  | none => (start, modern)
  | some (fields, _) =>
    (start ++ " -" ++ toString (fields + 1), modern ++ "," ++ toString (fields + 1))

/-- What is noteworthy of a key by its number. -/
def keyNotes (call : Invocation) (request : SortRequest) (general : Bool) (number : Nat)
    (key : SortKey) : List String :=
  let manner := key.manner
  let (old, modern) := oldSpelling key
  let note (holds : Bool) (text : String) : List String := if holds then [text] else []
  let n := toString number
  let isEmpty := !key.fromStart && key.finish.any fun (fields, _) => fields < key.startField
  let skipsAnyway := manner.isNumeric || manner.reads .month
  let chars := (key.finish.map (·.2)).getD 0
  let inFirst := key.finish.any fun (fields, chars) => fields == 0 && chars != 0
  let blanksCount := (!manner.skipsBlanks && !skipsAnyway) ||
    (!manner.skipsBlanks && key.startChar != 0) || (!manner.skipsBlanksAtEnd && chars != 0)
  note key.isOld ("obsolescent key " ++ call.quote old ++ " used; consider " ++ call.quote modern ++
      " instead") ++
    note isEmpty ("key " ++ n ++ " has zero width and will be ignored") ++
    note (!isEmpty && !general && request.separator.isNone && !inFirst && blanksCount)
      ("leading blanks are significant in key " ++ n ++ "; consider also specifying 'b'") ++
    note (!general && spansFields key) ("key " ++ n ++ " is numeric and spans multiple fields")
where
  /-- The key is a number, and more than one field belongs to it. -/
  spansFields (key : SortKey) : Bool :=
    key.manner.isNumeric && key.finish.all fun (fields, _) => key.startField < fields

/-- What is noteworthy of numbers. -/
def numberNotes (call : Invocation) (request : SortRequest) (general : Bool) (keys : List SortKey) :
    List String :=
  let spanning := keys.filter fun key => !general && keyNotes.spansFields key
  let separator := request.separator
  let treated (c : Char) (what : String) : String :=
    "field separator " ++ call.quote (String.singleton c) ++ " is treated as a " ++ what ++
      " in numbers"
  let clash : List String := match separator with
    | some '.' => if spanning.isEmpty then [] else [treated '.' "decimal point"]
    | some '-' => if spanning.isEmpty then [] else [treated '-' "minus sign"]
    | some '+' =>
      if spanning.any (·.manner.reads .general) then [treated '+' "plus sign"] else []
    | _ => []
  let told := separator == some '.' && !clash.isEmpty
  clash ++ (if keys.any (·.manner.isNumeric) ∧ !told then
    [(if separator = some '.' then "" else "note ") ++ "numbers use " ++ call.quote "." ++
      " as a decimal point in this locale"] else [])

/-- What is noteworthy of options that no key follows. -/
def generalNotes (request : SortRequest) (keys : List SortKey) : List String :=
  let general := request.general
  let unused (has : KeyManner → Bool) : Bool := has general && !keys.any fun key => has key.manner
  let rest : KeyManner :=
    { skipsBlanks := unused (·.skipsBlanks), skipsBlanksAtEnd := unused (·.skipsBlanksAtEnd)
      leftOut := general.leftOut.filter fun leftOut =>
        !keys.any fun key => key.manner.leftOut == some leftOut
      foldsCase := unused (·.foldsCase)
      readings := general.readings.filter fun reading => !keys.any fun key => key.manner.reads reading
      reversed := unused (·.reversed) }
  let whole := request.isStable || request.unique
  let ignored : List String :=
    if !rest.isPlain || (rest.reversed && whole && !keys.isEmpty) then
      let spelled := { rest with reversed := rest.reversed && whole }.spelled
      [if spelled.length = 1 then "option '-" ++ spelled ++ "' is ignored"
        else "options '-" ++ spelled ++ "' are ignored"]
    else []
  ignored ++ (if rest.reversed ∧ !whole ∧ !keys.isEmpty then
    ["option '-r' only applies to last-resort comparison"] else [])

/-- What is noteworthy of a request. -/
def notes (call : Invocation) (request : SortRequest) : List String :=
  let keys := request.resolvedKeys
  let general := request.keys.isEmpty && !keys.isEmpty
  let place := call.place "LC_COLLATE"
  (if Invocation.isPlainPlace place then "text ordering performed using simple byte comparison"
    else "text ordering performed using " ++ call.quote place ++ " sorting rules") ::
    ((keys.zipIdx 1).flatMap fun (key, number) => keyNotes call request general number key) ++
    numberNotes call request general keys ++ generalNotes request keys

end SortRequest

/-! ### The program -/

/-- The lines of a text, which end at a mark. -/
def piecesOf (mark : Char) (text : String) : List String :=
  if text = "" then []
  else
    let pieces := text.splitOn (String.singleton mark)
    if pieces.getLast? = some "" then pieces.dropLast else pieces

namespace SortRequest

/-- Goes on with the texts of inputs. -/
def readAll (call : Invocation) (next : List (String × String) → Job)
    (done : List (String × String)) : List String → Job
  | [] => next done.reverse
  | name :: rest =>
    Job.readInput name fun text =>
      match text with
      | .ok text => readAll call next ((name, text) :: done) rest
      | .error fault => Job.fail call ("read failed: " ++ call.quoteTitle name ++ ": " ++ fault.message) 2

/-- Looks whether the first input is in order. -/
def checkOrder (call : Invocation) (request : SortRequest) (order : SortOrder) (letter : Char)
    (name : String) : Job :=
  let look (text : String) : Job :=
    match order.disorder? 1 ((piecesOf request.mark text).map order.keyed) with
    | none => .exit 0
    | some (number, line) =>
      if letter = 'C' then .exit 1
      else
        Job.complain ((call.name ++ ": " ++ name ++ ":" ++ toString number ++ ": disorder: " ++
          line).push request.mark) (.exit 1)
  let refuse (what : String) (fault : SystemFault) : Job :=
    Job.fail call (what ++ " failed: " ++ call.quoteTitle name ++ ": " ++ fault.message) 2
  let take (text : Except SystemFault String) : Job :=
    match text with
    | .ok text => look text
    | .error fault => refuse "read" fault
  if name = "-" then Job.slurp 0 take
  else
    .open name { reads := true } fun opened =>
      match opened with
      | .ok descriptor => Job.slurp descriptor take
      | .error fault => refuse "open" fault

/-- Writes sorted lines and ends. -/
def writeOut (call : Invocation) (target : Option String) (output : String) : Job :=
  let title := call.quoteTitle (target.getD "standard output")
  if output = "" then .exit 0
  else
    .write 1 output fun fault =>
      match fault with
      | none => .exit 0
      | some fault =>
        let what := if output.length > 4096 then "write failed: " else "fflush failed: "
        Job.warn call (what ++ title ++ ": " ++ fault.message) <|
          Job.fail call (if fault = .badDescriptor then "write error: " ++ fault.message
            else "write error") 2

/-- Opens the file that sorted lines go to, without losing what it holds. -/
def prepareTarget (call : Invocation) (target : Option String) (next : Job) : Job :=
  match target with
  | none => next
  | some name =>
    .open name { writes := true, creates := true } fun opened =>
      match opened with
      | .ok descriptor => .close descriptor next
      | .error fault =>
        Job.fail call ("open failed: " ++ call.quoteTitle name ++ ": " ++ fault.message) 2

/-- Lets the output go to a file, which is emptied. -/
def turnToTarget (target : Option String) (next : Job) : Job :=
  match target with
  | none => next
  | some name =>
    .open name { writes := true, creates := true, truncates := true } fun opened =>
      match opened with
      | .ok descriptor => .direct 1 descriptor (.close descriptor next)
      | .error _ => next

/-- Looks whether inputs can be read. -/
def withReadable (call : Invocation) (names : List String) (next : Job) : Job :=
  .disk fun disk stand =>
    (disk, (names.findSome? fun name =>
      if name = "-" then none
      else
        match disk.inspect stand.directory name with
        | .ok _ => none
        | .error fault =>
          some (Job.fail call ("cannot read: " ++ call.quoteTitle name ++ ": " ++ fault.message) 2)).getD next)

/-- Sorts or merges inputs. -/
def produce (call : Invocation) (request : SortRequest) (order : SortOrder) (names : List String) :
    Job :=
  let finish (inputs : List (String × String)) : Job :=
    let pieces := inputs.map fun input => piecesOf request.mark input.2
    let sorted := if request.merges then order.merge pieces else order.sort pieces.flatten
    let render (line : String) : String :=
      if request.explains then explained call order line else line.push request.mark
    turnToTarget request.target (writeOut call request.target (String.join (sorted.map render)))
  let read : Job := readAll call finish [] names
  withReadable call names <| prepareTarget call request.target <|
    if names.contains "-" ∧ !request.merges then
      .look 0 fun opened =>
        if opened.isSome then read
        else Job.fail call ("stat failed: -: " ++ SystemFault.badDescriptor.message) 2
    else read

/-- Goes on with what random orders begin from. -/
def withSeed (call : Invocation) (request : SortRequest) (next : String → Job) : Job :=
  let size := 16
  if !request.resolvedKeys.any fun key => key.manner.reads .random then next ""
  else
    match request.seedSource with
    | none => next (String.ofList (List.replicate size '\x00'))
    | some name =>
      .open name { reads := true } fun opened =>
        match opened with
        | .error fault =>
          Job.fail call ("open failed: " ++ call.quoteTitle name ++ ": " ++ fault.message) 2
        | .ok descriptor =>
          .gather descriptor (·.length ≥ size) "" fun text =>
            match text with
            | .ok text =>
              if text.length < size then
                Job.fail call (call.quote name ++ ": end of file") 2
              else .close descriptor (next (text.take size).toString)
            | .error fault =>
              Job.fail call (call.quote name ++ ": read error: " ++ fault.message) 2

/-- Goes on with the names of the inputs, which may be listed in a file. -/
def withNames (call : Invocation) (request : SortRequest) (operands : List String)
    (next : List String → Job) : Job :=
  match request.listing, operands with
  | none, _ => next (if operands.isEmpty then ["-"] else operands)
  | some _, extra :: _ =>
    Job.misuse call ("extra operand " ++ call.quoteName extra ++
      "\nfile operands cannot be combined with --files0-from") 2
  | some listing, [] =>
    let fail (text : String) : Job := Job.fail call text 2
    let take (text : Except SystemFault String) : Job :=
      match text with
      | .error _ => fail ("cannot read file names from " ++ call.quoteName listing)
      | .ok text =>
        match piecesOf '\x00' text with
        | [] => fail ("no input from " ++ call.quoteName listing)
        | names =>
          match names.findIdx? fun name => name == "-" || name == "" with
          | none => next names
          | some index =>
            if names.getD index "" = "" then
              fail (call.quoteTitle listing ++ ":" ++ toString (index + 1) ++
                ": invalid zero-length file name")
            else
              fail ("when reading file names from stdin, no file name of " ++ call.quoteName "-" ++
                " allowed")
    if listing = "-" then Job.slurp 0 take
    else
      .open listing { reads := true } fun opened =>
        match opened with
        | .ok descriptor => Job.slurp descriptor fun text => .close descriptor (take text)
        | .error fault => fail ("open failed: " ++ call.quoteTitle listing ++ ": " ++ fault.message)

/-- Does what is asked for. -/
def run (call : Invocation) (request : SortRequest) (operands : List String) : Job :=
  withNames call request operands fun names =>
    let clash (letters : String) : Job :=
      Job.fail call ("options '-" ++ letters ++ "' are incompatible") 2
    match request.resolvedKeys.findSome? (·.manner.conflict?) with
    | some letters => clash letters
    | none =>
      let go : Job := withSeed call request fun seed =>
        let order := request.order (!Invocation.isPlainPlace (call.place "LC_COLLATE")) seed
        match request.check, names with
        | some letter, _ :: extra :: _ =>
          Job.fail call ("extra operand " ++ call.quoteName extra ++ " not allowed with -" ++
            String.singleton letter) 2
        | some letter, names =>
          if request.target.isSome then clash (String.ofList [letter, 'o'])
          else checkOrder call request order letter (names.headD "-")
        | none, names => produce call request order names
      if !request.explains then go
      else
        match request.check, request.target with
        | some letter, _ => clash (String.singleton letter ++ " --debug")
        | none, some _ => clash "o --debug"
        | none, none => (request.notes call).foldr (Job.warn call) go

end SortRequest

/-- The program `sort`. -/
def sort : Utility := fun call =>
  let request (arguments : Arguments) : Except Job SortRequest :=
    arguments.options.foldlM (SortRequest.add call) {}
  SortRequest.accepted.read call 2 (fun arguments =>
    match request arguments with
    | .error refusal => refusal
    | .ok request => request.run call arguments.operands)
    fun arguments job =>
      match request arguments with
      | .error refusal => refusal
      | .ok _ => job

end Utility

end ArtifactLens.Shell
