import ArtifactLens.Shell.Utility.Filing
import ArtifactLens.Shell.Utility.Speaking

/-!
# Removing files

The programs that take names away: `rm`, which goes through directories if it is told to and may
ask before every step, and `unlink`, which takes one name.
-/

namespace ArtifactLens.Shell

namespace Utility

/-- How names are taken away. -/
structure RemovingOrders where
  recursive : Bool
  /-- Empty directories go too. -/
  directories : Bool
  /-- What is not there is no failure. -/
  force : Bool
  asks : Bool
  verbose : Bool
  /-- The root is like any other directory. -/
  sparesRoot : Bool

/-- What became of a name. -/
inductive Fate where
  | gone
  | kept
  deriving DecidableEq

/-- What kind of file it is, as questions tell. -/
def kindOf (file : DiskFile) : String :=
  match file.body with
  | .octets "" => "regular empty file"
  | .octets _ | .program _ => "regular file"
  | .directory .. => "directory"
  | .link _ => "symbolic link"
  | .device _ => "character special file"

/-- The fault means that nothing is there. -/
def isMissing (fault : SystemFault) : Bool := fault == .missing || fault == .notDirectory

/-- Complains about a name that cannot be taken away, unless nothing is there and none is needed. -/
def refuseRemoval (orders : RemovingOrders) (path : String) (fault : SystemFault) :
    Filing Fate := do
  if orders.force ∧ isMissing fault then return .gone
  else
    Filing.complainOf ("cannot remove " ++ (← Filing.quoteName path)) fault
    return .kept

/-- Takes one name away. -/
def takeAway (orders : RemovingOrders) (isDirectory : Bool) (path : String) : Filing Fate := do
  let done ← Filing.request fun disk stand =>
    if isDirectory then disk.removeDirectory stand path else disk.removeFile stand path
  match done with
  | some fault => refuseRemoval orders path fault
  | none =>
    if orders.verbose then
      Filing.say ("removed " ++ (if isDirectory then "directory " else "") ++
        (← Filing.quoteName path) ++ "\n")
    return .gone

/-- Asks before a step, if that is wanted. -/
def agrees (orders : RemovingOrders) (question : String) : Filing Bool :=
  if orders.asks then Filing.ask question else pure true

/-- Takes a file away, with all below it. -/
def removeTree (orders : RemovingOrders) (path : String) : (measure : Nat) → Filing Fate
  | 0 => return .kept
  | measure + 1 => do
    match ← Filing.inspect path false with
    | .error fault => refuseRemoval orders path fault
    | .ok (number, file) =>
      let name ← Filing.quoteName path
      if !file.isDirectory then
        if ← agrees orders ("remove " ++ kindOf file ++ " " ++ name ++ "? ") then
          takeAway orders false path
        else return .kept
      else
        let names := (← get).disk.list number
        if names.isEmpty then
          if ← agrees orders ("remove directory " ++ name ++ "? ") then takeAway orders true path
          else return .kept
        else if !(← agrees orders ("descend into directory " ++ name ++ "? ")) then return .kept
        else
          let fates ← names.mapM fun entry => removeTree orders (pathBelow path entry) measure
          if fates.all (· == .gone) then
            if ← agrees orders ("remove directory " ++ name ++ "? ") then takeAway orders true path
            else return .kept
          else return .kept

/-- Takes away what an operand names. -/
def removeOperand (orders : RemovingOrders) (path : String) : Filing Unit := do
  match ← Filing.inspect path false with
  | .error fault => discard <| refuseRemoval orders path fault
  | .ok (number, file) =>
    let name ← Filing.quoteName path
    if file.isDirectory ∧ !orders.recursive ∧
        !(orders.directories ∧ ((← get).disk.entries number).isEmpty) then
      Filing.complainOf ("cannot remove " ++ name)
        (if orders.directories then .notEmpty else .isDirectory)
    else if file.isDirectory ∧ (lastName path = "." ∨ lastName path = "..") then
      Filing.complain ("refusing to remove '.' or '..' directory: skipping " ++ name)
    else if number = Disk.root ∧ orders.sparesRoot then
      Filing.complain ("it is dangerous to operate recursively on " ++
        (if path = "/" then "'/'" else name ++ " (same as '/')"))
      Filing.warn "use --no-preserve-root to override this failsafe"
    else discard <| removeTree orders path 1000

/-- The program `rm`. -/
def rm : Utility := fun call =>
  let accepted : Accepted :=
    { letters := "dfiIrvRοπΠκ", attached := "κΠ"
      names := [("force", 'f'), ("interactive", 'κ'), ("one-file-system", 'ο'),
        ("no-preserve-root", 'π'), ("preserve-root", 'Π'), ("recursive", 'r'), ("dir", 'd'),
        ("verbose", 'v')] }
  accepted.read call 1 fun arguments =>
    let recursive := arguments.has 'r' || arguments.has 'R'
    let asking := arguments.last? ['f', 'i', 'I', 'κ']
    let asks : Bool := match asking with
      | some ('i', _) => true
      | some ('κ', word) => word == "" || "always".startsWith word || "yes".startsWith word
      | _ => false
    let asksOnce : Bool := match asking with
      | some ('I', _) => true
      | some ('κ', word) => word != "" && "once".startsWith word
      | _ => false
    let orders : RemovingOrders :=
      { recursive, directories := arguments.has 'd', force := asking.any (·.1 == 'f'), asks
        verbose := arguments.has 'v', sparesRoot := !arguments.has 'π' }
    let count := arguments.operands.length
    if count = 0 then
      if orders.force then .exit 0 else Job.misuse call "missing operand"
    else
      Filing.job call do
        let goesOn ← if asksOnce ∧ (recursive ∨ count > 3) then
            Filing.ask ("remove " ++ toString count ++
              (if count = 1 then " argument" else " arguments") ++
              (if recursive then " recursively? " else "? "))
          else pure true
        if goesOn then arguments.operands.forM (removeOperand orders)

/-- The program `unlink`. -/
def unlink : Utility := fun call =>
  ({ letters := "" } : Accepted).read call 1 fun arguments =>
    match arguments.operands with
    | [] => Job.misuse call "missing operand"
    | [path] =>
      Filing.job call do
        if let some fault ← Filing.request fun disk stand => disk.removeFile stand path then
          Filing.complainOf ("cannot unlink " ++ (← Filing.quoteName path)) fault
    | _ :: extra :: _ => Job.misuse call ("extra operand " ++ call.quote extra)

end Utility

end ArtifactLens.Shell
