import ArtifactLens.Shell.Utility.Aiming
import ArtifactLens.Shell.Utility.Removing

/-!
# Copying and moving files

The programs `cp` and `mv`. What stands under a name before is replaced, kept beside it under
another name, or left alone; directories are copied with all below them.
-/

namespace ArtifactLens.Shell

namespace Utility

/-- When links are followed. -/
inductive Following where
  | always
  | never
  /-- Those that operands name. -/
  | operands
  deriving DecidableEq

/-- What is done about a file that stands where another is to go. -/
inductive Clash where
  | replace
  | ask
  | leave
  deriving DecidableEq

/-- How files are copied or moved. -/
structure CopyOrders where
  /-- The sources are not left where they were. -/
  moves : Bool := false
  recursive : Bool := false
  following : Following := .always
  clash : Clash := .replace
  force : Bool := false
  /-- Only what is newer than its target is taken. -/
  updates : Bool := false
  verbose : Bool := false
  keepsMode : Bool := false
  keepsMoments : Bool := false
  /-- Names of one file stay names of one file. -/
  keepsNames : Bool := false
  /-- New names are made in place of copies. -/
  shares : Bool := false
  /-- Links are made in place of copies. -/
  links : Bool := false
  /-- Content is not copied. -/
  onlyAttributes : Bool := false
  /-- What stands in the way goes first. -/
  removesFirst : Bool := false
  keeping : Option Keeping := none
  suffix : String := "~"
  parents : Bool := false

/-- What is known of a run of copies. -/
structure CopyState where
  /-- Files that were made, and directories that were reached. -/
  made : List FileNumber := []
  /-- The paths under which files were copied, by the number of the source. -/
  copies : List (FileNumber × String) := []
  /-- Operands that were copied, with the directory they went to. -/
  seen : List (FileNumber × String) := []

/-- Acting on files while copying. -/
abbrev Copying := StateT CopyState Filing

namespace Copying

/-- Complains; the copy has failed. -/
def refuse (text : String) : Copying Bool := do
  Filing.complain text
  return false

/-- Complains about a fault; the copy has failed. -/
def refuseOf (text : String) (fault : SystemFault) : Copying Bool := do
  Filing.complainOf text fault
  return false

/-- Notes a file that was made. -/
def note (path : String) : Copying Unit := do
  if let .ok (number, _) ← Filing.inspect path false then
    modify fun state => { state with made := number :: state.made }

/-- Tells of a copy. -/
def announce (orders : CopyOrders) (source target : String) (kept : Option String) :
    Copying Unit := do
  if orders.verbose then
    let backup ← match kept with
      | some path => do pure (" (backup: " ++ (← Filing.quoteName path) ++ ")")
      | none => pure ""
    Filing.say ((if orders.moves then "renamed " else "") ++ (← Filing.quoteName source) ++ " -> " ++
      (← Filing.quoteName target) ++ backup ++ "\n")

/-- Gives a copy the permissions and moments that are kept of its source. -/
def settle (orders : CopyOrders) (file : DiskFile) (target : String) : Copying Unit := do
  if let .ok (number, _) ← Filing.inspect target false then
    Filing.change number fun copy => { copy with
      mode := if orders.keepsMode ∧ !file.isLink then file.mode else copy.mode
      accessed := if orders.keepsMoments then file.accessed else copy.accessed
      modified := if orders.keepsMoments then file.modified else copy.modified }

/-- What of a file is copied. -/
def bodyOf (file : DiskFile) : Filing FileBody := do
  match file.body with
  | .device .null | .device .full => return .octets ""
  | .device .zero => return .octets ""
  | .device (.descriptor _) =>
    let state ← get
    if !state.isWhole then failure
    else
      set { state with input := "" }
      return .octets state.input
  | body => return body

/-- Copies a file that is no directory to a path where no file is, or one whose content is
replaced. -/
def copyContent (orders : CopyOrders) (source target : String) (file : DiskFile) (isNew : Bool) :
    Copying Bool := do
  let here ← Filing.here
  let name ← Filing.quoteName target
  let faultOf (fault : SystemFault) : SystemFault :=
    if fault = .isDirectory ∨ (fault = .missing ∧ target.endsWith "/") then .notDirectory else fault
  let make (body : FileBody) (mode : Nat) : Filing (Option SystemFault) :=
    Filing.request fun disk stand =>
      if target.endsWith "/" then
        match disk.make stand target body mode with
        | .ok _ => .error .notDirectory
        | .error fault => .error fault
      else (disk.make stand target body mode).map (·.1)
  let failed (what : String) (fault : SystemFault) : Copying Bool :=
    refuseOf ("cannot create " ++ what ++ " " ++ name) (faultOf fault)
  match file.body with
  | .link text =>
    if orders.following ≠ .always ∧ !orders.links then
      match ← Filing.request fun disk stand => disk.makeLink stand text target with
      | none =>
        settle orders file target
        return true
      | some fault => failed "symbolic link" fault
    else return true
  | _ =>
    if orders.links then
      if !source.startsWith "/" ∧ target.contains '/' ∧
          directoryName target ≠ "." then
        refuse (target ++ ": can make relative symbolic links only in current directory")
      else
        match ← Filing.request fun disk stand => disk.makeLink stand source target with
        | none => return true
        | some fault => failed "symbolic link" fault
    else
      let body ← if orders.onlyAttributes then pure (FileBody.octets "") else bodyOf file
      if isNew then
        let mask := (← getThe FilingState).stand.mask
        let mode := file.mode &&& 0o777 &&& (0o777 ^^^ mask)
        match ← make body mode with
        | none =>
          settle orders file target
          return true
        | some fault => failed "regular file" fault
      else
        let filing ← getThe FilingState
        match filing.disk.inspect here target with
        | .ok (number, old) =>
          match old.body with
          | .device _ => return true
          | _ =>
            let moment := filing.stand.moment
            if !orders.onlyAttributes then
              Filing.change number fun copy =>
                { copy with body, modified := moment, changed := moment }
            settle orders file target
            return true
        | .error fault => failed "regular file" fault

/-- What has to be done before something goes to a path where a file is. -/
inductive Way where
  /-- Nothing is in the way any more; what was there may have been kept. -/
  | free (kept : Option String)
  /-- The file stays, and its content is replaced. -/
  | taken
  /-- Nothing is copied, which is a failure or not. -/
  | stop (succeeds : Bool)

/-- Makes way at a path where a file is. -/
def makeWay (orders : CopyOrders) (source target : String) (number : FileNumber) (file : DiskFile)
    (other : FileNumber) (old : DiskFile) : Copying Way := do
  let name ← Filing.quoteName target
  let from' ← Filing.quoteName source
  let stop (text : String) : Copying Way := do
    Filing.complain text
    return .stop false
  let isSame := number == other &&
    !(orders.moves && source != target && !file.isDirectory)
  let mayShare := orders.shares || (orders.removesFirst && source != target) ||
    (orders.keeping.isSome && !file.isDirectory && source != target)
  if orders.clash ≠ .leave ∧ isSame ∧ !mayShare then
    stop (from' ++ " and " ++ name ++ " are the same file")
  else if orders.updates ∧ !file.isDirectory ∧ file.modified ≤ old.modified then
    return .stop true
  else if orders.clash = .leave ∧ (orders.moves ∨ !file.isDirectory) then return .stop true
  else if orders.shares ∧ number = other then return .stop true
  else
    let agreed ← if orders.clash = .ask ∧ (orders.moves ∨ !file.isDirectory) then
        Filing.ask ("overwrite " ++ name ++ "? ")
      else pure true
    if !agreed then return .stop true
    else if !file.isDirectory ∧ old.isDirectory then
      stop ("cannot overwrite directory " ++ name ++ " with non-directory")
    else if !file.isDirectory ∧ orders.keeping ≠ some .numbered ∧
        (← get).made.contains other then
      stop ("will not overwrite just-created " ++ name ++ " with " ++ from')
    else if file.isDirectory ∧ !old.isDirectory ∧ !(orders.moves ∧ orders.keeping.isSome) then
      stop ("cannot overwrite non-directory " ++ name ++ " with directory " ++ from')
    else
      match orders.keeping with
      | some keeping =>
        if old.isDirectory ∧ !orders.moves then return .taken
        else
          let kept := keptName (← getThe FilingState).disk (← Filing.here) orders.suffix target keeping
          match ← Filing.request fun disk stand => disk.rename stand target kept with
          | none => return .free (some kept)
          | some fault => stop ("cannot backup " ++ name ++ ": " ++ fault.message)
      | none =>
        if old.isDirectory ∨ orders.moves then return .taken
        else if orders.removesFirst ∨ orders.links ∨ orders.shares ∨
            (file.isLink ∧ orders.following ≠ .always) ∨
            (orders.keepsNames ∧ 1 < (← getThe FilingState).disk.linkCount other) then
          let gone ← Filing.request fun disk stand => disk.removeFile stand target
          if gone.isNone ∧ orders.verbose then Filing.say ("removed " ++ name ++ "\n")
          return .free none
        else return .taken

/-- Moves a file. -/
def move (orders : CopyOrders) (source target : String) (kept : Option String) : Copying Bool := do
  let name ← Filing.quoteName target
  match ← Filing.request fun disk stand => disk.rename stand source target with
  | none =>
    -- A file under both names loses the first of them.
    if source ≠ target ∧ (← Filing.inspect source false).isOk then
      discard <| Filing.request fun disk stand => disk.removeFile stand source
    announce orders source target kept
    note target
    return true
  | some .invalid =>
    refuse ("cannot move " ++ (← Filing.quoteName source) ++ " to a subdirectory of itself, " ++ name)
  | some fault =>
    if fault = .exists ∨ fault = .isDirectory then refuseOf ("cannot overwrite " ++ name) fault
    else refuseOf ("cannot move " ++ (← Filing.quoteName source) ++ " to " ++ name) fault

/-- Copies a file that is no directory, or gives it a further name. -/
def copyWhole (orders : CopyOrders) (source target : String) (file : DiskFile)
    (kept : Option String) (isNew : Bool) : Copying Bool := do
  announce orders source target kept
  if orders.shares then
    match ← Filing.request fun disk stand =>
        disk.shareName stand source target (orders.following == .always) with
    | none => return true
    | some fault =>
      refuseOf ("cannot create hard link " ++ (← Filing.quoteName target) ++ " to " ++
        (← Filing.quoteName source)) fault
  else copyContent orders source target file isNew

/-- Copies a file that is no directory once its way is free, or taken by what is replaced. A file
that was copied under another name gets a further name where names are kept. -/
def copyFile (orders : CopyOrders) (source target : String) (number : FileNumber) (file : DiskFile)
    (kept : Option String) (isNew : Bool) : Copying Bool := do
  let disk := (← getThe FilingState).disk
  let copies := (← get).copies
  let earlier := if orders.keepsNames ∧ disk.linkCount number > 1 ∧ isNew then
      copies.find? (·.1 == number)
    else none
  let done ← match earlier with
    | some (_, path) => do
      announce orders source target kept
      match ← Filing.request fun disk stand => disk.shareName stand path target with
      | none => pure true
      | some fault =>
        refuseOf ("cannot create hard link " ++ (← Filing.quoteName target) ++ " to " ++
          (← Filing.quoteName path)) fault
    | none => copyWhole orders source target file kept isNew
  if done then
    note target
    modify fun state => { state with copies := (number, target) :: state.copies }
  return done

/-- The way to a target. Content is copied through a link that stands there, all else takes its
place. -/
def wayTo (orders : CopyOrders) (source target : String) (number : FileNumber) (file : DiskFile)
    (throughLinks : Bool) : Copying Way := do
  let name ← Filing.quoteName target
  match ← Filing.inspect target false with
  | .ok (other, old) =>
    if old.isLink ∧ throughLinks then
      match ← Filing.inspect target with
      | .ok (other, old) => makeWay orders source target number file other old
      | .error .missing =>
        if orders.clash = .leave then return .stop true
        else
          discard <| refuse ("not writing through dangling symlink " ++ name)
          return .stop false
      | .error fault =>
        discard <| refuseOf ("cannot stat " ++ name) fault
        return .stop false
    else makeWay orders source target number file other old
  | .error .missing => return .free none
  | .error fault =>
    if orders.moves then return .free none
    else
      discard <| refuseOf ("cannot stat " ++ name) fault
      return .stop false

/-- Copies or moves a file, with all below it. `top` are the source and the target that the copy
began with, if it is not its first step. -/
def copy (orders : CopyOrders) (top : Option (String × String)) (source target : String) :
    (measure : Nat) → Copying Bool
  | 0 => return false
  | measure + 1 => do
    let isOperand := top.isNone
    let first := top.getD (source, target)
    let follows := !orders.moves && (orders.following == .always ||
      (orders.following == .operands && isOperand))
    match ← Filing.inspect source follows with
    | .error fault => refuseOf ("cannot stat " ++ (← Filing.quoteName source)) fault
    | .ok (number, file) =>
      if file.isDirectory ∧ !orders.recursive ∧ !orders.moves then
        refuse ("-r not specified; omitting directory " ++ (← Filing.quoteName source))
      else if isOperand ∧ !orders.moves ∧ orders.keeping.isNone ∧
          (← get).seen.contains (number, source) then
        Filing.warn ("warning: source " ++ (if file.isDirectory then "directory " else "file ") ++
          (← Filing.quoteName source) ++ " specified more than once")
        return true
      else
        if isOperand then
          modify fun state => { state with seen := (number, source) :: state.seen }
        let throughLinks := !orders.moves && (!file.isLink || follows) && !orders.shares &&
          !orders.links && !orders.removesFirst && orders.keeping.isNone
        let (kept, isNew) ← match ← wayTo orders source target number file throughLinks with
          | .stop succeeds => return succeeds
          | .free kept => pure (kept, true)
          | .taken => pure (none, false)
        let made := (← get).made
        if orders.moves then move orders source target kept
        else if !file.isDirectory then copyFile orders source target number file kept isNew
        else if made.contains number then
          refuse ("cannot copy a directory, " ++ (← Filing.quoteName first.1) ++ ", into itself, " ++
            (← Filing.quoteName first.2))
        else
          let fault? ← if isNew then
              Filing.request fun disk stand =>
                disk.makeDirectory stand target (file.mode &&& 0o777 ||| 0o700)
            else pure none
          match fault? with
          | some fault =>
            refuseOf ("cannot create directory " ++ (← Filing.quoteName target)) fault
          | none =>
            if isNew then
              announce orders source target kept
              note target
            let names := (← getThe FilingState).disk.list number
            let results ← names.mapM fun entry =>
              copy orders (some first) (pathBelow source entry) (pathBelow target entry) measure
            if isNew then
              let mask := (← getThe FilingState).stand.mask
              if let .ok (copied, _) ← Filing.inspect target then
                Filing.change copied fun copy => { copy with
                  mode := file.mode &&& 0o777 &&& (0o777 ^^^ mask) ||| (copy.mode &&& 0o2000) }
            settle orders file target
            return results.all (·)

/-- Makes the directories above the copy of a source whose whole path is kept below a directory. -/
def copyParents (orders : CopyOrders) (directory source : String) : Copying Bool := do
  let names := ((directoryName source).splitOn "/").filter fun name => name != "" && name != "."
  let start := if source.startsWith "/" then "/" else ""
  let (_, _, fine) ← names.foldlM (fun (from', goal, fine) name => do
    let from' := from' ++ name
    let goal := pathBelow goal name
    if !fine then return (from' ++ "/", goal, fine)
    else if (← Filing.inspect goal).isOk then return (from' ++ "/", goal, true)
    else
      match ← Filing.request fun disk stand => disk.makeDirectory stand goal with
      | none =>
        if orders.verbose then Filing.say (from' ++ " -> " ++ goal ++ "\n")
        return (from' ++ "/", goal, true)
      | some fault =>
        let fine ← refuseOf ("cannot make directory " ++ (← Filing.quoteName goal)) fault
        return (from' ++ "/", goal, fine)) (start, directory, true)
  return fine

/-- Copies or moves sources to a target. -/
def toAim (orders : CopyOrders) (sources : List String) : Aim → Copying Unit
  | .name target => sources.forM fun source => discard <| copy orders none source target 1000
  | .into directory =>
    sources.forM fun source => do
      if orders.parents then
        if ← copyParents orders directory source then
          let path := trimSlashes source
          let path := String.ofList (path.toList.dropWhile (· == '/'))
          discard <| copy orders none source (pathBelow directory path) 1000
      else
        let name := lastName source
        let target := if name = ".." then directory else pathBelow directory name
        discard <| copy orders none source target 1000

end Copying

/-! ### Programs -/

/-- What options ask to be done about files that stand in the way. -/
def clashOf (arguments : Arguments) (letters : List Char) : Clash :=
  match arguments.last? letters with
  | some ('i', _) => .ask
  | some ('n', _) => .leave
  | _ => .replace

/-- The aim that options and operands tell. -/
def aimOrders (arguments : Arguments) : AimOrders :=
  { directory := arguments.value? 't', isName := arguments.has 'T' }

/-- The operands, without slashes that end them where that is asked for. -/
def trimmedOperands (arguments : Arguments) : List String :=
  if arguments.has 'σ' then arguments.operands.map trimSlashes else arguments.operands

/-- The program `cp`. -/
def cp : Utility := fun call =>
  let accepted : Accepted :=
    { letters := "abdfiHlLnprst:uvxPRS:TZασρπφ:δγ:ωβ", attached := "βδω"
      names := [("archive", 'a'), ("attributes-only", 'α'), ("backup", 'β'), ("copy-contents", 'κ'),
        ("dereference", 'L'), ("force", 'f'), ("interactive", 'i'), ("link", 'l'),
        ("no-clobber", 'n'), ("no-dereference", 'P'), ("no-preserve", 'φ'),
        ("no-target-directory", 'T'), ("one-file-system", 'x'), ("parents", 'π'), ("path", 'π'),
        ("preserve", 'δ'), ("recursive", 'R'), ("remove-destination", 'ρ'), ("sparse", 'γ'),
        ("reflink", 'ω'), ("strip-trailing-slashes", 'σ'), ("suffix", 'S'),
        ("symbolic-link", 's'), ("target-directory", 't'), ("update", 'u'), ("verbose", 'v'),
        ("context", 'Z')] }
  accepted.read call 1 fun arguments =>
    match keepingAsked call arguments with
    | .error complaint => Job.misuse call complaint
    | .ok keeping =>
      let recursive := arguments.has 'r' || arguments.has 'R' || arguments.has 'a'
      let following : Following := match arguments.last? ['L', 'P', 'd', 'a', 'H'] with
        | some ('L', _) => .always
        | some ('H', _) => .operands
        | some _ => .never
        | none => if recursive ∨ arguments.has 'l' then .never else .always
      let kept := match arguments.value? 'δ' with
        | some "" => ["mode", "timestamps"]
        | some words => words.splitOn ","
        | none => []
      let dropped := ((arguments.value? 'φ').getD "").splitOn ","
      let keeps (word : String) (plain : Bool) : Bool :=
        (plain || kept.contains word || kept.contains "all") &&
          !(dropped.contains word || dropped.contains "all")
      let whole := arguments.has 'p' || arguments.has 'a'
      let orders : CopyOrders :=
        { recursive, following, clash := clashOf arguments ['i', 'n']
          force := arguments.has 'f', updates := arguments.has 'u', verbose := arguments.has 'v'
          keepsMode := keeps "mode" whole, keepsMoments := keeps "timestamps" whole
          keepsNames := keeps "links" (arguments.has 'a' || arguments.has 'd')
          shares := arguments.has 'l', links := arguments.has 's'
          onlyAttributes := arguments.has 'α', removesFirst := arguments.has 'ρ', keeping
          suffix := ((arguments.value? 'S').filter (· != "")).getD
            ((call.value? "SIMPLE_BACKUP_SUFFIX").getD "~")
          parents := arguments.has 'π' }
      if orders.shares ∧ orders.links then
        Job.misuse call "cannot make both hard and symbolic links"
      else if orders.clash = .leave ∧ keeping.isSome then
        Job.misuse call "options --backup and --no-clobber are mutually exclusive"
      else
        aimed call (aimOrders arguments) (trimmedOperands arguments) fun sources aim =>
          match aim, orders.parents with
          | .name _, true =>
            Job.misuse call "with --parents, the destination must be a directory"
          | _, _ =>
            Filing.job call do
              let _ ← (Copying.toAim orders sources aim).run {}

/-- The program `mv`. -/
def mv : Utility := fun call =>
  let accepted : Accepted :=
    { letters := "bfint:uvS:TZσβ", attached := "β"
      names := [("backup", 'β'), ("context", 'Z'), ("force", 'f'), ("interactive", 'i'),
        ("no-clobber", 'n'), ("no-target-directory", 'T'), ("strip-trailing-slashes", 'σ'),
        ("suffix", 'S'), ("target-directory", 't'), ("update", 'u'), ("verbose", 'v')] }
  accepted.read call 1 fun arguments =>
    match keepingAsked call arguments with
    | .error complaint => Job.misuse call complaint
    | .ok keeping =>
      let orders : CopyOrders :=
        { moves := true, clash := clashOf arguments ['f', 'i', 'n']
          updates := arguments.has 'u', verbose := arguments.has 'v', keeping
          suffix := ((arguments.value? 'S').filter (· != "")).getD
            ((call.value? "SIMPLE_BACKUP_SUFFIX").getD "~") }
      if orders.clash = .leave ∧ keeping.isSome then
        Job.misuse call "options --backup and --no-clobber are mutually exclusive"
      else
        aimed call (aimOrders arguments) (trimmedOperands arguments) fun sources aim =>
          Filing.job call do
            let _ ← (Copying.toAim orders sources aim).run {}

end Utility

end ArtifactLens.Shell
