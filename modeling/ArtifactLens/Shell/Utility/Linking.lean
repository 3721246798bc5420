import ArtifactLens.Shell.Utility.Moving
import ArtifactLens.Shell.Utility.Making

/-!
# Linking and installing files

The programs `ln` and `link`, which give files further names or make links to them, and `install`,
which copies files with permissions of their own.
-/

namespace ArtifactLens.Shell

namespace Utility

/-! ### Paths from one to another -/

/-- A path with links followed as far as they lead; what is not there is spelled on. -/
def spelledOut (disk : Disk) (here : FileNumber) (measure : Nat) (path : String) : String :=
  match measure with
  | 0 => path
  | measure + 1 =>
    match disk.resolve here path with
    | .ok spot => disk.pathOfSpot spot
    | .error _ =>
      let above := directoryName path
      let front := if above = path then "/" else spelledOut disk here measure above
      match lastName path with
      | "." | "/" => front
      | ".." => directoryName front
      | name => pathBelow front name

/-- The names in an absolute path. -/
def namesIn (path : String) : List String := (path.splitOn "/").filter (· != "")

/-- The path that leads from a directory to a path, both absolute and without links. -/
def relativePath (directory path : String) : String :=
  let rec go : List String → List String → List String
    | a :: as, b :: bs => if a = b then go as bs else ((a :: as).map fun _ => "..") ++ b :: bs
    | as, bs => (as.map fun _ => "..") ++ bs
  let names := go (namesIn directory) (namesIn path)
  if names.isEmpty then "." else String.intercalate "/" names

/-! ### Links -/

/-- How links are made. -/
structure LinkOrders where
  symbolic : Bool
  force : Bool
  asks : Bool
  verbose : Bool
  /-- A link's own name is not shared, but that of what it leads to. -/
  follows : Bool
  relative : Bool
  keeping : Option Keeping
  suffix : String

/-- Makes one link; `made` are the files that were linked before. Answers the number of the file, if
it was. -/
def linkOne (orders : LinkOrders) (made : List String) (source target : String) :
    Filing (Option String) := do
  let name ← Filing.quoteName target
  let sourceName ← Filing.quoteName source
  let state ← get
  let here := state.stand.directory
  let refuse (text : String) : Filing (Option String) := do
    Filing.complain text
    return none
  let found := state.disk.inspect here source orders.follows
  let sourceFile? := found.toOption
  match orders.symbolic, found with
  | false, .error fault => refuse ("failed to access " ++ sourceName ++ ": " ++ fault.message)
  | _, _ =>
    if !orders.symbolic ∧ sourceFile?.any (·.2.isDirectory) then
      refuse (source ++ ": hard link not allowed for directory")
    else
      let replaces := orders.force || orders.asks || orders.keeping.isSome
      let old? := (state.disk.inspect here target false).toOption
      let isSame : Bool := match sourceFile?, old? with
        | some (a, _), some (b, _) => a == b
        | _, _ => false
      let goesOn ← match replaces, old? with
        | true, some (_, old) => do
          if old.isDirectory then
            Filing.complain (target ++ ": cannot overwrite directory")
            pure false
          else if made.contains target then
            Filing.complain ("will not overwrite just-created " ++ name ++ " with " ++ sourceName)
            pure false
          else if isSame ∧ orders.keeping.isNone ∧ (!orders.symbolic ∨ !old.isLink) ∧
              (source = target ∨ orders.symbolic) then
            Filing.complain (sourceName ++ " and " ++ name ++ " are the same file")
            pure false
          else if orders.asks then
            Filing.ask ("replace " ++ name ++ "? ")
          else pure true
        | _, _ => pure true
      if !goesOn then return none
      else
        let kept ← match orders.keeping, old? with
          | some keeping, some _ => do
            let kept := keptName state.disk here orders.suffix target keeping
            discard <| Filing.request fun disk stand => disk.rename stand target kept
            pure (some kept)
          | _, _ => pure none
        let text := if orders.symbolic ∧ orders.relative then
            let from' := spelledOut state.disk here 1000 (directoryName target)
            relativePath from' (spelledOut state.disk here 1000 source)
          else source
        let attempt : Filing (Option SystemFault) :=
          Filing.request fun disk stand =>
            if orders.symbolic then disk.makeLink stand text target
            else disk.shareName stand source target orders.follows
        let fault? ← match ← attempt with
          | some .exists =>
            if replaces ∧ old?.isSome then do
              discard <| Filing.request fun disk stand => disk.removeFile stand target
              attempt
            else pure (some .exists)
          | other => pure other
        match fault? with
        | none =>
          if orders.verbose then
            let backup ← match kept with
              | some path => do pure ((← Filing.quoteName path) ++ " ~ ")
              | none => pure ""
            Filing.say (backup ++ name ++ (if orders.symbolic then " -> " else " => ") ++
              (← Filing.quoteName text) ++ "\n")
          return some target
        | some fault =>
          let what := if orders.symbolic then "symbolic" else "hard"
          let shows := if orders.symbolic then source == "" || fault == .nameTooLong
            else fault != .exists
          refuse ("failed to create " ++ what ++ " link " ++ name ++
            (if shows then (if orders.symbolic then " -> " else " => ") ++ sourceName else "") ++
            ": " ++ fault.message)

/-- Makes links one after another. -/
def linkAll (orders : LinkOrders) (made : List String) : List (String × String) → Filing Unit
  | [] => return
  | (source, target) :: rest => do
    match ← linkOne orders made source target with
    | some target => linkAll orders (target :: made) rest
    | none => linkAll orders made rest

/-- The program `ln`. -/
def ln : Utility := fun call =>
  let accepted : Accepted :=
    { letters := "bdfFinrst:vLPS:Tβ", attached := "β"
      names := [("backup", 'β'), ("directory", 'd'), ("no-dereference", 'n'),
        ("no-target-directory", 'T'), ("force", 'f'), ("interactive", 'i'), ("suffix", 'S'),
        ("target-directory", 't'), ("logical", 'L'), ("physical", 'P'), ("relative", 'r'),
        ("symbolic", 's'), ("verbose", 'v')] }
  accepted.read call 1 fun arguments =>
    match keepingAsked call arguments with
    | .error complaint => Job.misuse call complaint
    | .ok keeping =>
      let orders : LinkOrders :=
        { symbolic := arguments.has 's'
          force := (arguments.last? ['f', 'i']).any (·.1 == 'f')
          asks := (arguments.last? ['f', 'i']).any (·.1 == 'i')
          verbose := arguments.has 'v'
          follows := (arguments.last? ['L', 'P']).any (·.1 == 'L')
          relative := arguments.has 'r', keeping
          suffix := ((arguments.value? 'S').filter (· != "")).getD
            ((call.value? "SIMPLE_BACKUP_SUFFIX").getD "~") }
      let run (sources : List String) (aim : Aim) : Job :=
        Filing.job call (linkAll orders [] (sources.map fun source =>
          (source, match aim with
            | .name target => target
            | .into directory =>
              if directory = "." then lastName source else pathBelow directory (lastName source))))
      if orders.relative ∧ !orders.symbolic then
        Job.fail call "cannot do --relative without --symbolic"
      else
        match arguments.operands, arguments.value? 't', arguments.has 'T' with
        | [source], none, false => run [source] (.into ".")
        | operands, directory, isName =>
          aimed call { directory, isName, follows := !arguments.has 'n' } operands run

/-- The program `link`. -/
def link : Utility := fun call =>
  ({ letters := "" } : Accepted).read call 1 fun arguments =>
    match arguments.operands with
    | [] => Job.misuse call "missing operand"
    | [source] => Job.misuse call ("missing operand after " ++ call.quote source)
    | [source, target] =>
      Filing.job call do
        if let some fault ← Filing.request fun disk stand =>
            disk.shareName stand source target then
          Filing.complainOf ("cannot create link " ++ (← Filing.quoteName target) ++ " to " ++
            (← Filing.quoteName source)) fault
    | _ :: _ :: extra :: _ => Job.misuse call ("extra operand " ++ call.quote extra)

/-! ### Installing -/

/-- Copies a file with permissions of its own. -/
def installOne (orders : CopyOrders) (mode : Nat) (source target : String) : Copying Unit := do
  match ← Filing.inspect source with
  | .ok (_, file) =>
    if file.isDirectory then
      Filing.complain ("omitting directory " ++ (← Filing.quoteName source))
    else if ← Copying.copy orders none source target 10 then
      if let .ok (number, _) ← Filing.inspect target false then
        Filing.change number fun file => { file with mode }
  | .error fault => Filing.complainOf ("cannot stat " ++ (← Filing.quoteName source)) fault

/-- The program `install`. -/
def install : Utility := fun call =>
  let accepted : Accepted :=
    { letters := "bcCsDdg:m:o:pt:TvS:Zβ", attached := "β"
      names := [("backup", 'β'), ("compare", 'C'), ("directory", 'd'), ("group", 'g'),
        ("mode", 'm'), ("no-target-directory", 'T'), ("owner", 'o'), ("preserve-timestamps", 'p'),
        ("strip", 's'), ("suffix", 'S'), ("target-directory", 't'), ("verbose", 'v')] }
  accepted.read call 1 fun arguments =>
    let changes? := match arguments.value? 'm' with
      | none => some [⟨'=', .given, 0o7777, 0o755, 0o7777⟩]
      | some text => ModeChange.parse? text
    match changes?, keepingAsked call arguments with
    | none, _ =>
      Job.fail call ("invalid mode " ++ call.quote ((arguments.value? 'm').getD ""))
    | _, .error complaint => Job.misuse call complaint
    | some changes, .ok keeping =>
      let mode := ModeChange.apply false 0 0 changes
      let orders : CopyOrders :=
        { removesFirst := keeping.isNone, keeping, verbose := arguments.has 'v'
          keepsMoments := arguments.has 'p', suffix := (arguments.value? 'S').getD "~" }
      let directories (paths : List String) (mode : Option (List ModeChange)) : Filing Unit :=
        paths.forM fun path =>
          makeDirectories
            { parents := true, verbose := arguments.has 'v', mode, word := "creating" } path
            (if path.startsWith "/" then "/" else "") (namesIn path)
      if arguments.has 'd' then
        if arguments.operands.isEmpty then Job.misuse call "missing file operand"
        else Filing.job call (directories arguments.operands (some changes))
      else
        let run (sources : List String) (aim : Aim) : Job :=
          Filing.job call do
            let _ ← (sources.forM fun source =>
              match aim with
              | .name target => installOne orders mode source target
              | .into directory =>
                installOne orders mode source (pathBelow directory (lastName source)) :
              Copying Unit).run {}
        let prepared (paths : List String) (next : Job) : Job :=
          if arguments.has 'D' then
            Filing.carryOut call (directories paths none)
              (fun state => if state.failed then Filing.finish state 1 else next) "" true 10
          else next
        match arguments.operands, arguments.value? 't' with
        | operands, some directory =>
          prepared [directory] (aimed call (aimOrders arguments) operands run)
        | [source, target], none =>
          let above := directoryName target
          prepared (if above = "." ∨ above = "/" then [] else [above])
            (aimed call (aimOrders arguments) [source, target] run)
        | operands, none => aimed call (aimOrders arguments) operands run

end Utility

end ArtifactLens.Shell
