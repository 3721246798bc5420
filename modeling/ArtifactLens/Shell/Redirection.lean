import ArtifactLens.Shell.State

/-!
# Redirections

A redirection is worked out first: its target is expanded, or the body of its here-document. Then
it lets a descriptor lead elsewhere, and where it led before is kept under a descriptor out of
reach, to be put back after the command.
-/

namespace ArtifactLens.Shell

/-- A redirection whose words were expanded. -/
inductive Target where
  | path (descriptor : Nat) (kind : Redirect) (path : String)
  /-- Reads a text. -/
  | document (descriptor : Nat) (text : String)
  /-- Shares another descriptor, or closes the first. -/
  | share (descriptor : Nat) (source : Option Nat)

namespace Target

/-- Expands the words of a redirection. -/
def expand (context : Context) (documents : List (Nat × Word)) :
    Redirection → Expand Target
  | .file descriptor .share word => do
    match (← Expand.text context false word).toList with
    | ['-'] => return .share descriptor none
    | [digit] =>
      if digit.isDigit then return .share descriptor (some (digit.toNat - '0'.toNat))
      else Expand.fail "Syntax error: Bad fd number"
    | _ => Expand.fail "Syntax error: Bad fd number"
  | .file descriptor kind word => do
    return .path descriptor kind (← Expand.text context false word)
  | .document descriptor number => do
    let word := ((documents.find? (·.1 == number)).map (·.2)).getD []
    return .document descriptor
      (Atom.textOf (← Expand.parts { context with fields := false } word))

end Target

namespace Redirecting

variable {τ : Type}

/-- The least descriptor under which open files are kept out of reach. -/
def outOfReach : Nat := 1000

/-- Keeps where a descriptor leads. -/
def keep (descriptor : Nat) : Sys τ (Nat × Option Nat) := do
  match ← Sys.open? descriptor with
  | none => return (descriptor, none)
  | some (number, _) =>
    let hidden := outOfReach + (← Sys.fresh)
    Sys.assign hidden number
    return (descriptor, some hidden)

/-- Puts back where descriptors led, the last one first. -/
def putBack : Kept → Sys τ Unit
  | [] => return
  | (descriptor, none) :: rest => do
    Sys.close descriptor
    putBack rest
  | (descriptor, some hidden) :: rest => do
    if let some (number, _) ← Sys.open? hidden then
      Sys.assign descriptor number
    Sys.close hidden
    putBack rest

/-- The wording of a fault in opening a file. -/
def openFault (creates : Bool) : SystemFault → String
  | .missing | .notDirectory => if creates then "Directory nonexistent" else "No such file"
  | fault => fault.message

/-- Opens the file of a redirection. -/
def openTarget (noClobber : Bool) (kind : Redirect) (path : String) :
    Sys τ (Except String Nat) := do
  let writes (manner : Sys.Manner) : Sys τ (Except String Nat) := do
    match ← Sys.openPath path manner with
    | .ok number => return .ok number
    | .error fault => return .error ("cannot create " ++ path ++ ": " ++ openFault true fault)
  match kind with
  | .read | .share =>
    match ← Sys.openPath path { reads := true } with
    | .ok number => return .ok number
    | .error fault => return .error ("cannot open " ++ path ++ ": " ++ openFault false fault)
  | .write =>
    let kernel ← get
    let isFile : Bool := match kernel.disk.inspect kernel.self.directory path with
      | .ok (_, file) => file.isRegular
      | _ => false
    if noClobber ∧ isFile then return .error ("cannot create " ++ path ++ ": File exists")
    else writes { writes := true, creates := true, truncates := true }
  | .clobber => writes { writes := true, creates := true, truncates := true }
  | .append => writes { writes := true, creates := true, appends := true }
  | .readWrite => writes { reads := true, writes := true, creates := true }

/-- Carries out a redirection; there is a complaint if it cannot be done. -/
def apply (noClobber : Bool) (target : Target) : Sys τ (Option String) := do
  match target with
  | .path descriptor kind path =>
    match ← openTarget noClobber kind path with
    | .ok number =>
      Sys.assign descriptor number
      return none
    | .error complaint => return some complaint
  | .document descriptor text =>
    let (reader, _) ← Sys.pipe
    modify fun kernel => { kernel with
      pipes := match kernel.pipes with
        | (number, _) :: rest => (number, text) :: rest
        | [] => [] }
    Sys.assign descriptor reader
    return none
  | .share descriptor none =>
    Sys.close descriptor
    return none
  | .share descriptor (some source) =>
    match ← Sys.open? source with
    | some (number, _) =>
      Sys.assign descriptor number
      return none
    | none =>
      Sys.close descriptor
      return some (toString source ++ ": Bad file descriptor")

/-- The descriptor that a redirection changes. -/
def descriptorOf : Target → Nat
  | .path descriptor .. => descriptor
  | .document descriptor _ => descriptor
  | .share descriptor _ => descriptor

/-- Carries out redirections in order, up to the first that cannot be done. What was kept comes the
last one first. -/
def applyAll (noClobber : Bool) (kept : Kept) : List Target → Sys τ (Kept × Option String)
  | [] => return (kept, none)
  | target :: rest => do
    let descriptor := descriptorOf target
    let kept ← if kept.any (·.1 == descriptor) then pure kept else do
      pure ((← keep descriptor) :: kept)
    match ← apply noClobber target with
    | none => applyAll noClobber kept rest
    | some complaint => return (kept, some complaint)

end Redirecting

end ArtifactLens.Shell
