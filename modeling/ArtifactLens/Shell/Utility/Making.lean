import ArtifactLens.Shell.Calendar.Reading
import ArtifactLens.Shell.Utility.Choice
import ArtifactLens.Shell.Utility.Permission
import ArtifactLens.Shell.Utility.Speaking

/-!
# Making files and directories

Programs that make directories and empty files, set the moments and the sizes of files, and find
names that are not taken.
-/

namespace ArtifactLens.Shell

namespace Utility

/-- The zone of a call. -/
def zoneOf (call : Invocation) : Calendar.Zone :=
  match call.value? "TZ" with
  | some text => Calendar.Zone.ofText text
  | none => Calendar.universal

/-! ### Directories -/

/-- How directories are made. -/
structure DirectoryOrders where
  parents : Bool
  verbose : Bool
  mode : Option (List ModeChange)
  /-- How a directory that was made is told of. -/
  word : String := "created"

/-- Makes a directory. -/
def makeDirectory (orders : DirectoryOrders) (path : String) : Filing (Option SystemFault) := do
  let fault ← Filing.request fun disk stand => disk.makeDirectory stand path
  if fault.isNone then
    if let some changes := orders.mode then
      if let .ok (number, file) ← Filing.inspect path then
        let mask := (← get).stand.mask
        let mode := ModeChange.apply true mask 0o777 changes ||| (file.mode &&& 0o2000)
        Filing.change number fun file => { file with mode }
    if orders.verbose then
      let name ← Filing.quoteName path
      Filing.say ((← get).call.name ++ ": " ++ orders.word ++ " directory " ++ name ++ "\n")
  return fault

/-- Complains about a directory that cannot be made. -/
def complainOfDirectory (path : String) (fault : SystemFault) : Filing Unit := do
  Filing.complainOf ("cannot create directory " ++ (← Filing.quote path)) fault

/-- Makes a directory with those above it that are missing; `done` is the part of the path that is
there. -/
def makeDirectories (orders : DirectoryOrders) (path done : String) : List String → Filing Unit
  | [] => return
  | name :: rest => do
    let here := done ++ name
    -- The last directory is named as it was asked for.
    let spelled := if rest.isEmpty then path else here
    let fault? ← match ← Filing.inspect here with
      | .ok (_, file) =>
        if file.isDirectory then pure none
        else pure (some (if rest.isEmpty then SystemFault.exists else .notDirectory))
      | .error .missing =>
        makeDirectory { orders with mode := if rest.isEmpty then orders.mode else none } spelled
      | .error fault => pure (some fault)
    match fault? with
    | some fault => complainOfDirectory spelled fault
    | none => makeDirectories orders path (here ++ "/") rest

/-- The program `mkdir`. -/
def mkdir : Utility := fun call =>
  let accepted : Accepted :=
    { letters := "m:pvZ", names := [("mode", 'm'), ("parents", 'p'), ("verbose", 'v')] }
  accepted.read call 1 fun arguments =>
    if arguments.operands.isEmpty then Job.misuse call "missing operand"
    else
      let make (mode : Option (List ModeChange)) : Job :=
        let orders : DirectoryOrders :=
          { parents := arguments.has 'p', verbose := arguments.has 'v', mode }
        Filing.job call (arguments.operands.forM fun path => do
          let names := (path.splitOn "/").filter (· != "")
          if orders.parents ∧ !names.isEmpty then
            makeDirectories orders path (if path.startsWith "/" then "/" else "") names
          else
            match ← makeDirectory orders path with
            | some fault =>
              if orders.parents ∧ fault = .exists then pure () else complainOfDirectory path fault
            | none => pure ())
      match arguments.value? 'm' with
      | none => make none
      | some text =>
        match ModeChange.parse? text with
        | some changes => make (some changes)
        | none => Job.fail call ("invalid mode " ++ call.quote text)

/-- How directories are removed. -/
structure RemovalOrders where
  parents : Bool
  verbose : Bool
  /-- A directory that holds something stays, which is no failure. -/
  keepsFull : Bool

/-- Removes an empty directory; answers whether the one above may be tried. -/
def removeEmpty (orders : RemovalOrders) (isParent : Bool) (path : String) : Filing Bool := do
  let name ← Filing.quoteName path
  if orders.verbose then
    Filing.say ((← get).call.name ++ ": removing directory, " ++ name ++ "\n")
  match ← Filing.request fun disk stand => disk.removeDirectory stand path with
  | none => return true
  | some fault =>
    if fault = .notEmpty ∧ orders.keepsFull then return false
    else
      let disk := (← get).disk
      let here ← Filing.here
      let leadsOn : Bool := match disk.inspect here path with
        | .ok (_, file) => file.isDirectory
        | .error fault => fault != .notDirectory
      if fault = .notDirectory ∧ path.endsWith "/" ∧ leadsOn then
        Filing.complain ("failed to remove " ++ name ++ ": Symbolic link not followed")
      else
        Filing.complainOf ("failed to remove " ++
          (if isParent ∧ fault ≠ .notDirectory then "directory " else "") ++ name) fault
      return false

/-- Removes the directories above one, as long as they are empty. -/
def removeAbove (orders : RemovalOrders) : (measure : Nat) → String → Filing Unit
  | 0, _ => return
  | measure + 1, path => do
    let path := trimSlashes path
    let above := String.ofList (path.toList.reverse.dropWhile (· != '/')).reverse
    if above = "" then return
    else
      let above := trimSlashes above
      if ← removeEmpty orders true above then removeAbove orders measure above

/-- The program `rmdir`. -/
def rmdir : Utility := fun call =>
  let accepted : Accepted :=
    { letters := "pvι"
      names := [("ignore-fail-on-non-empty", 'ι'), ("path", 'p'), ("parents", 'p'),
        ("verbose", 'v')] }
  accepted.read call 1 fun arguments =>
    if arguments.operands.isEmpty then Job.misuse call "missing operand"
    else
      let orders : RemovalOrders :=
        { parents := arguments.has 'p', verbose := arguments.has 'v', keepsFull := arguments.has 'ι' }
      Filing.job call (arguments.operands.forM fun path => do
        let goesOn ← removeEmpty orders false path
        if goesOn ∧ orders.parents then removeAbove orders (path.length + 1) path)

/-! ### Moments -/

/-- What moments are set to. -/
inductive Timing where
  | now
  /-- The moments of access and of change. -/
  | at (accessed modified : Int)

/-- How moments are set. -/
structure TouchOrders where
  creates : Bool
  follows : Bool
  setsAccessed : Bool
  setsModified : Bool
  timing : Timing

/-- Sets the moments of a file, which is made if it is not there. -/
def touchFile (orders : TouchOrders) (path : String) : Filing Unit := do
  let name ← Filing.quoteName path
  let set (number : FileNumber) : Filing Unit := do
    let now ← Filing.now
    let (accessed, modified) := match orders.timing with
      | .now => (now, now)
      | .at accessed modified => (accessed, modified)
    Filing.change number fun file => { file with
      accessed := if orders.setsAccessed then accessed else file.accessed
      modified := if orders.setsModified then modified else file.modified
      changed := now }
  let setting (fault : SystemFault) : Filing Unit :=
    if !orders.creates ∧ fault = .missing then pure ()
    else Filing.complainOf ("setting times of " ++ name) fault
  match ← Filing.inspect path orders.follows with
  | .ok (number, _) => set number
  | .error fault =>
    if !orders.creates ∨ !orders.follows ∨ path.endsWith "/" then setting fault
    else
      let state ← get
      match state.disk.resolve state.stand.directory path with
      | .error fault => Filing.complainOf ("cannot touch " ++ name) fault
      | .ok spot =>
        let mode := 0o666 &&& (0o777 ^^^ state.stand.mask)
        let (disk, number) := state.disk.add state.stand spot (.octets "") mode
        modify fun state => { state with disk }
        set number

/-- Adjusts a moment by words, or takes a whole one from them. -/
def momentOf? (call : Invocation) (base : Int) (text : String) : Option Int :=
  Calendar.read? (zoneOf call) base text

/-- The words for the times of a file, with the letters that stand for them. -/
def touchChoice : Choice Char where
  option := "--time"
  words := [("atime", 'a'), ("access", 'a'), ("use", 'a'), ("mtime", 'm'), ("modify", 'm')]

/-- The program `touch`. -/
def touch : Utility := fun call =>
  let accepted : Accepted :=
    { letters := "acd:fhmr:t:τ:"
      names := [("time", 'τ'), ("no-create", 'c'), ("date", 'd'), ("reference", 'r'),
        ("no-dereference", 'h')] }
  accepted.read call 1 fun arguments =>
    let take (word : Option String) (next : Option Char → Job) : Job :=
      match word with
      | some word => touchChoice.take call word fun letter => next (some letter)
      | none => next none
    take (arguments.value? 'τ') fun aspect =>
      let isAccess := aspect == some 'a'
      let isChange := aspect == some 'm'
      let onlyAccessed := arguments.has 'a' || isAccess
      let onlyModified := arguments.has 'm' || isChange
      let orders (timing : Timing) : TouchOrders :=
        { creates := !arguments.has 'c', follows := !arguments.has 'h'
          setsAccessed := onlyAccessed || !onlyModified
          setsModified := onlyModified || !onlyAccessed, timing }
      let run (timing : Timing) : Job :=
        if arguments.operands.isEmpty then Job.misuse call "missing file operand"
        else Filing.job call (arguments.operands.forM (touchFile (orders timing)))
      let badDate (text : String) : Job := Job.fail call ("invalid date format " ++ call.quote text)
      let asked := [arguments.has 'r' || arguments.has 'd', arguments.has 't']
      if asked.all (·) then
        Job.misuse call "cannot specify times from more than one source"
      else
        .disk fun disk stand => (disk,
          match arguments.value? 't', arguments.value? 'r', arguments.value? 'd' with
          | some stamp, _, _ =>
            match Calendar.stamp? (zoneOf call) stand.moment stamp with
            | some moment => run (.at moment moment)
            | none => badDate stamp
          | none, some path, date =>
            match disk.inspect stand.directory path (!arguments.has 'h') with
            | .error fault =>
              Job.fail call ("failed to get attributes of " ++ call.quoteName path ++ ": " ++
                fault.message)
            | .ok (_, file) =>
              match date with
              | none => run (.at file.accessed file.modified)
              | some text =>
                match momentOf? call file.accessed text, momentOf? call file.modified text with
                | some accessed, some modified => run (.at accessed modified)
                | _, _ => badDate text
          | none, none, some text =>
            match momentOf? call stand.moment text with
            | some moment => run (.at moment moment)
            | none => badDate text
          | none, none, none => run .now)

/-! ### Names that are not taken -/

/-- The characters that names are made of. -/
def nameLetters : List Char :=
  "abcdefghijklmnopqrstuvwxyzABCDEFGHIJKLMNOPQRSTUVWXYZ0123456789".toList

/-- So many letters for a name, by number. -/
def letterRun : (count : Nat) → (number : Nat) → List Char
  | 0, _ => []
  | count + 1, number =>
    nameLetters.getD (number % nameLetters.length) 'a' ::
      letterRun count (number / nameLetters.length * 31 + number * 7 + 11)

/-- A name in place of a template, whose `X`s before the suffix give way to letters. -/
def fillTemplate (template : String) (count suffix number : Nat) : String :=
  let chars := template.toList
  let start := chars.length - suffix - count
  String.ofList (chars.take start ++ letterRun count number ++ chars.drop (start + count))

/-- What a name is wanted for. -/
structure TemplateOrders where
  isDirectory : Bool
  isDry : Bool
  silent : Bool

/-- Makes a file under the first of the names that a template gives and that is not taken. -/
def makeTemporary (orders : TemplateOrders) (template : String) (count suffix number : Nat) :
    (measure : Nat) → Filing Unit
  | 0 => Filing.complain "no name is left"
  | measure + 1 => do
    let path := fillTemplate template count suffix number
    let again : Filing Unit := makeTemporary orders template count suffix (number + 1) measure
    let kind := if orders.isDirectory then "directory" else "file"
    let refuse (fault : SystemFault) : Filing Unit := do
      if orders.silent then modify fun state => { state with failed := true }
      else
        Filing.complainOf ("failed to create " ++ kind ++ " via template " ++
          (← Filing.quote template)) fault
    if orders.isDry then
      if (← Filing.inspect path false).isOk then again else Filing.say (path ++ "\n")
    else
      let made ← Filing.request fun disk stand =>
        if orders.isDirectory then disk.makeDirectory { stand with mask := 0 } path 0o700
        else if path.endsWith "/" then .error .isDirectory
        else (disk.make stand path (.octets "") 0o600).map (·.1)
      match made with
      | none => Filing.say (path ++ "\n")
      | some .exists => again
      | some fault => refuse fault

/-- The program `mktemp`. -/
def mktemp : Utility := fun call =>
  let accepted : Accepted :=
    { letters := "dp:qtuσ:π", attached := "π"
      names := [("directory", 'd'), ("quiet", 'q'), ("dry-run", 'u'), ("suffix", 'σ'),
        ("tmpdir", 'π')] }
  accepted.read call 1 fun arguments =>
    let refuse (text : String) : Job :=
      if arguments.has 'q' then .exit 1 else Job.fail call text
    match arguments.operands with
    | _ :: _ :: _ => Job.misuse call "too many templates"
    | operands =>
      let given := operands.head?
      let template := given.getD "tmp.XXXXXXXXXX"
      let suffix? := arguments.value? 'σ'
      let whole := template ++ suffix?.getD ""
      let suffix := match suffix? with
        | some suffix => suffix.toList
        | none => if template.contains 'X' then (template.toList.reverse.takeWhile (· != 'X')).reverse else []
      let count := ((whole.toList.take (whole.length - suffix.length)).reverse.takeWhile
        (· == 'X')).length
      if suffix?.isSome ∧ !template.endsWith "X" then
        refuse ("with --suffix, template " ++ call.quote template ++ " must end in X")
      else if (trimSlashes (String.ofList suffix)).contains '/' then
        refuse ("invalid suffix " ++ call.quote (String.ofList suffix) ++
          ", contains directory separator")
      else if count < 3 then refuse ("too few X's in template " ++ call.quote whole)
      else
        let asked := (arguments.last? ['p', 'π']).map (·.2) |>.filter (· != "")
        let set := (call.value? "TMPDIR").filter (· != "")
        let usesDirectory := given.isNone || arguments.has 't' || arguments.has 'p' ||
          arguments.has 'π'
        let directory := if arguments.has 't' then (set <|> asked).getD "/tmp"
          else (asked <|> set).getD "/tmp"
        if usesDirectory ∧ arguments.has 't' ∧ whole.contains '/' then
          refuse ("invalid template, " ++ call.quote whole ++ ", contains directory separator")
        else if usesDirectory ∧ !arguments.has 't' ∧ whole.startsWith "/" then
          refuse ("invalid template, " ++ call.quote whole ++
            "; with --tmpdir, it may not be absolute")
        else
          let full := if usesDirectory then pathBelow directory whole else whole
          let orders : TemplateOrders :=
            { isDirectory := arguments.has 'd', isDry := arguments.has 'u'
              silent := arguments.has 'q' }
          Filing.job call (makeTemporary orders full count suffix.length 28657 1000)

/-! ### Sizes -/

/-- How a size is told: as it is, or by what the old one has to do with it. -/
structure SizeOrders where
  relation : Option Char
  size : Int

/-- Reads how a size is told. -/
def sizeOrders? (text : String) : Option SizeOrders :=
  let chars := text.toList
  let (relation, rest) : Option Char × List Char := match chars with
    | c :: rest => if "<>/%".contains c then (some c, rest) else (none, chars)
    | [] => (none, [])
  let (sign, digits) : Option Char × List Char := match rest with
    | c :: more => if c = '+' ∨ c = '-' then (some c, more) else (none, rest)
    | [] => (none, [])
  match size? (String.ofList digits), relation, sign with
  | none, _, _ => none
  | some n, none, some '-' => some ⟨some '+', -(n : Int)⟩
  | some n, none, some _ => some ⟨some '+', n⟩
  | some n, relation, none => some ⟨relation, n⟩
  | some _, some _, some _ => none

/-- The size that is told, given the old one. -/
def SizeOrders.apply (orders : SizeOrders) (old : Nat) : Nat :=
  let n := orders.size.toNat
  match orders.relation with
  | none => n
  | some '+' => (old + orders.size).toNat
  | some '<' => min old n
  | some '>' => max old n
  | some '/' => old / n * n
  | some _ => (old + n - 1) / n * n

/-- The program `truncate`. -/
def truncate : Utility := fun call =>
  let accepted : Accepted :=
    { letters := "cor:s:"
      names := [("no-create", 'c'), ("io-blocks", 'o'), ("reference", 'r'), ("size", 's')] }
  accepted.read call 1 fun arguments =>
    let resize (orders : SizeOrders) : Job :=
      if arguments.operands.isEmpty then Job.misuse call "missing file operand"
      else Filing.job call (arguments.operands.forM fun path => do
        let state ← get
        let name ← Filing.quoteName path
        match ← Filing.inspect path with
        | .ok (number, file) =>
          if file.isDirectory then
            Filing.complainOf ("cannot open " ++ name ++ " for writing") .isDirectory
          else
            let old := file.content
            let size := orders.apply old.length
            let content := (old.take size).toString ++
              String.ofList (List.replicate (size - old.length) '\x00')
            modify fun state => { state with
              disk := state.disk.write state.stand.moment number content }
        | .error fault =>
          if arguments.has 'c' ∧ fault = .missing then pure ()
          else
            let mode := 0o666 &&& (0o777 ^^^ state.stand.mask)
            let content := String.ofList (List.replicate (orders.apply 0) '\x00')
            if let some fault ← Filing.request fun disk stand =>
                (disk.make stand path (.octets content) mode).map (·.1) then
              Filing.complainOf ("cannot open " ++ name ++ " for writing") fault)
    match arguments.value? 's', arguments.value? 'r' with
    | none, none =>
      Job.misuse call ("you must specify either " ++ call.quote "--size" ++ " or " ++
        call.quote "--reference")
    | some text, none =>
      match sizeOrders? text with
      | none => Job.fail call ("Invalid number: " ++ call.quote text)
      | some orders =>
        if (orders.relation = some '/' ∨ orders.relation = some '%') ∧ orders.size = 0 then
          Job.fail call "division by zero"
        else resize orders
    | size, some path =>
      .disk fun disk stand => (disk,
        match disk.inspect stand.directory path with
        | .error fault =>
          Job.fail call ("cannot stat " ++ call.quoteName path ++ ": " ++ fault.message)
        | .ok (_, file) =>
          match size with
          | none => resize ⟨none, file.size⟩
          | some text =>
            match sizeOrders? text with
            | some ⟨some '+', n⟩ => resize ⟨none, file.size + n⟩
            | some _ =>
              Job.misuse call ("you must specify a relative " ++ call.quote "--size" ++ " with " ++
                call.quote "--reference")
            | none => Job.fail call ("Invalid number: " ++ call.quote text))

end Utility

end ArtifactLens.Shell
