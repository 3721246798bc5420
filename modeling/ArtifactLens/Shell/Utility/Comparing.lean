import ArtifactLens.Shell.Utility.Dumping.Style
import ArtifactLens.Shell.Utility.Filtering

/-!
# Comparing two inputs

The program `cmp` compares two inputs octet by octet, a block at a time. It tells the first difference, or
all of them, or nothing; and if there is none, which input is over first (`Comparing.endNote`).
-/

namespace ArtifactLens.Shell

namespace Utility

namespace Comparing

/-- What is told of differences. -/
inductive Report where
  | first
  | all
  /-- The status alone tells. -/
  | status
  /-- Nobody looks at the output. -/
  | unseen
  deriving DecidableEq

/-- What was asked for. -/
structure Orders where
  report : Report := .first
  showsOctets : Bool := false
  skips : Nat × Nat := (0, 0)
  most : Nat := Amount.greatest

/-- The options of `cmp`. -/
def accepted : Accepted :=
  { letters := "bci:ln:sv"
    namesHint := true
    package := "GNU diffutils) 3.8"
    names := [("print-bytes", 'b'), ("print-chars", 'c'), ("ignore-initial", 'i'), ("verbose", 'l'),
      ("bytes", 'n'), ("silent", 's'), ("quiet", 's'), ("version", 'v')] }

/-- Complains about the use of the program. -/
def refuse {α : Type} (call : Invocation) (text : String) : Except Job α :=
  .error (accepted.misuse call text 2)

namespace Orders

/-- Takes how much of an input is skipped; what follows the number is left. -/
def skip (call : Invocation) (orders : Orders) (isFirst : Bool) (text : String) :
    Except Job (Orders × List Char) :=
  match Amount.scan? 0 "kKMGTPEZY0" text.toList with
  | some (value, rest) =>
    if value ≥ 2 ^ 63 ∨ !(rest.isEmpty ∨ (isFirst ∧ rest.head? = some ':')) then
      refuse call ("invalid --ignore-initial value '" ++ text ++ "'")
    else
      let (first, second) := orders.skips
      .ok ({ orders with
        skips := if isFirst then (max first value, second) else (first, max second value) }, rest)
  | none => refuse call ("invalid --ignore-initial value '" ++ text ++ "'")

/-- Takes what is told of differences. -/
def tell (call : Invocation) (orders : Orders) (report : Report) : Except Job Orders :=
  if orders.report = .first ∨ orders.report = report then .ok { orders with report }
  else refuse call "options -l and -s are incompatible"

/-- Takes one more option. -/
def add (call : Invocation) (orders : Orders) (option : Char × String) : Except Job Orders := do
  let (letter, value) := option
  match letter with
  | 'b' | 'c' => return { orders with showsOctets := true }
  | 'i' =>
    let (orders, rest) ← orders.skip call true value
    match rest with
    | _ :: second => return (← orders.skip call false (String.ofList second)).1
    | [] => return { orders with skips := (orders.skips.1, max orders.skips.2 orders.skips.1) }
  | 'l' => orders.tell call .all
  | 's' => orders.tell call .status
  | 'n' =>
    match Amount.scan? 0 "kKMGTPEZY0" value.toList with
    | some (most, []) =>
      if most > Amount.greatest then refuse call ("invalid --bytes value '" ++ value ++ "'")
      else return { orders with most := min orders.most most }
    | _ => refuse call ("invalid --bytes value '" ++ value ++ "'")
  | 'v' => .error (Job.answer call "cmp (GNU diffutils) 3.8\n")
  | _ => return orders

end Orders

/-- The two inputs. -/
structure Pair where
  names : String × String
  descriptors : Nat × Nat
  /-- The width of the places of differences. -/
  width : Nat := 1
  /-- Octets are called so, as is usual where rules are not plain. -/
  noun : String

/-- How far the inputs were compared. -/
structure Compared where
  /-- How many octets were compared. -/
  count : Nat := 0
  /-- How many newlines were among them. -/
  lines : Nat := 0
  /-- The last of them was a newline, or there was none. -/
  atStart : Bool := true
  differs : Bool := false

/-- An octet as it is shown after its number. -/
def shown (octet : Nat) : String :=
  let (mark, octet) := if octet ≥ 128 then ("M-", octet - 128) else ("", octet)
  if octet < 0x20 then mark ++ "^" ++ String.singleton (Char.ofNat (octet + 64))
  else if octet = 0x7f then mark ++ "^?"
  else mark ++ String.singleton (Char.ofNat octet)

/-- The number of an octet. -/
def octal (octet : Nat) : String := right 3 (DumpStyle.digits 8 1 octet)

/-- The line about the first difference. -/
def firstNote (pair : Pair) (orders : Orders) (compared : Compared) (a b : Nat) : String :=
  let place := toString (compared.count + 1)
  let line := toString (compared.lines + 1)
  let start := pair.names.1 ++ " " ++ pair.names.2 ++ " differ: "
  if orders.showsOctets then
    start ++ "byte " ++ place ++ ", line " ++ line ++ " is " ++ octal a ++ " " ++ shown a ++ " " ++
      octal b ++ " " ++ shown b ++ "\n"
  else start ++ pair.noun ++ " " ++ place ++ ", line " ++ line ++ "\n"

/-- The line about one of all differences. -/
def note (pair : Pair) (orders : Orders) (place a b : Nat) : String :=
  let start := right pair.width (toString place) ++ " " ++ octal a ++ " "
  if orders.showsOctets then start ++ left 4 (shown a) ++ " " ++ octal b ++ " " ++ shown b ++ "\n"
  else start ++ octal b ++ "\n"

/-- What is said of an input that is over before the other one. -/
def endNote (orders : Orders) (compared : Compared) (name : String) : String :=
  if compared.count = 0 then "cmp: EOF on " ++ name ++ " which is empty\n"
  else
    let start := "cmp: EOF on " ++ name ++ " after byte " ++ toString compared.count
    if orders.report ≠ .first then start ++ "\n"
    else if compared.atStart then start ++ ", line " ++ toString compared.lines ++ "\n"
    else start ++ ", in line " ++ toString (compared.lines + 1) ++ "\n"

/-- Goes over octets that are the same; what is left of both begins with a difference, or one is over. -/
def pass (compared : Compared) : List Char → List Char → Compared × List Char × List Char
  | a :: as, b :: bs =>
    if a = b then
      pass { compared with
        count := compared.count + 1, lines := compared.lines + if a = '\n' then 1 else 0
        atStart := a == '\n' } as bs
    else (compared, a :: as, b :: bs)
  | as, bs => (compared, as, bs)

/-- The lines about all differences, in reverse. -/
def notes (pair : Pair) (orders : Orders) (done : List String) :
    (place : Nat) → List Char → List Char → List String
  | place, a :: as, b :: bs =>
    let done := if a = b then done else note pair orders place a.toNat b.toNat :: done
    notes pair orders done (place + 1) as bs
  | _, _, _ => done

/-- Reads a whole block, unless the input is over. -/
def readBlock (descriptor size : Nat) (next : Except SystemFault String → Job) :
    (measure : Nat) → String → Job
  | 0, text => next (.ok text)
  | measure + 1, text =>
    if text.length ≥ size then next (.ok text)
    else
      .read descriptor (size - text.length) fun piece =>
        match piece with
        | .ok "" => next (.ok text)
        | .ok piece => readBlock descriptor size next measure (text ++ piece)
        | .error fault => next (.error fault)

/-- Ends; what could not be put out is complained about if there is a difference. -/
def finish (call : Invocation) (orders : Orders) (progress : Progress Compared) (status : Nat) : Job :=
  progress.flush fun progress =>
    match progress.unwritten with
    | some fault =>
      if status ≠ 0 ∧ (orders.report = .first ∨ orders.report = .all) then
        Job.fail call ("standard output: " ++ fault.message) 2
      else .exit status
    | none => .exit status

/-- Compares block by block. -/
def run (call : Invocation) (orders : Orders) (pair : Pair) :
    (measure left : Nat) → Progress Compared → Job
  | 0, _, progress => .exit (if progress.state.differs then 1 else 0)
  | measure + 1, left, progress =>
    let size := min pieceSize left
    let blame (name : String) (fault : SystemFault) : Job :=
      progress.fail call (name ++ ": " ++ fault.message) 2
    readBlock pair.descriptors.1 size (fun first =>
      match first with
      | .error fault => blame pair.names.1 fault
      | .ok first =>
        readBlock pair.descriptors.2 size (fun second =>
          match second with
          | .error fault => blame pair.names.2 fault
          | .ok second =>
            let (compared, as, bs) := pass progress.state first.toList second.toList
            let smaller := min first.length second.length
            let goOn (compared : Compared) (progress : Progress Compared) : Job :=
              let progress := { progress with state := compared }
              if first.length ≠ second.length then
                let name := if second.length < first.length then pair.names.2 else pair.names.1
                let isTold := orders.report != .status && !(orders.report == .unseen && compared.differs)
                let ending : Job := finish call orders progress 1
                if isTold then Job.complain (endNote orders compared name) ending else ending
              else if first.length < pieceSize ∨ (orders.report = .unseen ∧ compared.differs) then
                finish call orders progress (if compared.differs then 1 else 0)
              else
                run call orders pair measure
                  (if left = Amount.greatest then left else left - size) progress
            match as, bs with
            | a :: _, b :: _ =>
              match orders.report with
              | .first =>
                progress.put (firstNote pair orders compared a.toNat b.toNat) (finish call orders · 1)
              | .status => finish call orders progress 1
              | .unseen => goOn { compared with differs := true } progress
              | .all =>
                let lines := (notes pair orders [] (compared.count + 1) as bs).reverse
                let compared := { compared with
                  differs := true, count := progress.state.count + smaller }
                progress.put (String.join lines) (goOn compared)
            | _, _ => goOn compared progress) mostReads "") mostReads ""

/-- Skips the start of an input: by a move if that can be, or else by reading. -/
def skipStart (descriptor : Nat) (next : Option SystemFault → Job) : (measure : Nat) → Nat → Job
  | 0, _ | _ + 1, 0 => next none
  | measure + 1, count =>
    .read descriptor (min count pieceSize) fun piece =>
      match piece with
      | .ok "" => next none
      | .ok text => skipStart descriptor next measure (count - text.length)
      | .error fault => next (some fault)

/-- How many octets are left of a file, if it is one. -/
def sizeLeft? (disk : Disk) (opened : Option OpenFile) : Option Nat :=
  match opened with
  | some { channel := .file number, offset, .. } =>
    (disk.find? number).map fun file => file.size - offset
  | _ => none

/-- Compares the inputs of two descriptors. -/
def start (call : Invocation) (orders : Orders) (names : String × String) (first second : Nat) : Job :=
  let move (descriptor count : Nat) (name : String) (next : Job) : Job :=
    if count = 0 then next
    else
      .skip descriptor count fun isMoved =>
        if isMoved then next
        else
          skipStart descriptor (fun fault =>
            match fault with
            | none => next
            | some fault => Job.fail call (name ++ ": " ++ fault.message) 2) mostReads count
  move first orders.skips.1 names.1 <| move second orders.skips.2 names.2 <|
    .look first fun opened0 =>
      .look second fun opened1 =>
        .look 1 fun (output : Option OpenFile) =>
          .disk fun disk _ =>
            let isUnseen : Bool := match output with
              | some { channel := .null, .. } => orders.report != .status
              | _ => false
            let orders := if isUnseen then { orders with report := .unseen } else orders
            let sizes := [sizeLeft? disk opened0, sizeLeft? disk opened1].filterMap fun size => size
            let most := sizes.foldl min (min orders.most (2 ^ 63 - 1))
            let isPlain := Invocation.isPlainPlace (call.place "LC_MESSAGES")
            let pair : Pair :=
              { names, descriptors := (first, second), width := (toString most).length
                noun := if isPlain then "char" else "byte" }
            (disk, run call orders pair mostReads orders.most { state := {} })

/-- Opens the two inputs and compares them. Two names that are the same stand for the same input. -/
def openBoth (call : Invocation) (orders : Orders) (names : String × String) : Job :=
  let opening (name : String) (next : Nat → Job) : Job :=
    if name = "-" then
      .look 0 fun opened =>
        if opened.isSome then next 0
        else Job.fail call ("-: " ++ SystemFault.badDescriptor.message) 2
    else
      .open name { reads := true } fun opened =>
        match opened with
        | .ok descriptor => next descriptor
        | .error fault =>
          if orders.report = .status then .exit 2
          else Job.fail call (name ++ ": " ++ fault.message) 2
  let isSame := names.1 == names.2 && orders.skips.1 == orders.skips.2
  if isSame then opening names.1 fun _ => .exit 0
  else if names.2 = "-" then
    opening names.2 fun second => opening names.1 fun first => start call orders names first second
  else opening names.1 fun first => opening names.2 fun second => start call orders names first second

end Comparing

/-- The program `cmp`. -/
def cmp : Utility := fun call =>
  let accepted := Comparing.accepted
  let read (arguments : Arguments) : Except Job Comparing.Orders :=
    arguments.options.foldlM (Comparing.Orders.add call) {}
  accepted.read call 2 (fun arguments =>
    let job : Except Job Job := do
      let orders ← read arguments
      match arguments.operands with
      | [] =>
        let last := (call.name :: accepted.optionWords call).getLastD ""
        Comparing.refuse call ("missing operand after '" ++ last ++ "'")
      | first :: others =>
        let names := (first, others.headD "-")
        let orders ← match others[1]? with
          | some text => (orders.skip call true text >>= fun (orders, rest) =>
              if rest.isEmpty then .ok orders
              else Comparing.refuse call ("invalid --ignore-initial value '" ++ text ++ "'"))
          | none => pure orders
        let orders ← match others[2]? with
          | some text => (orders.skip call false text).map (·.1)
          | none => pure orders
        if let some extra := others[3]? then
          Comparing.refuse call ("extra operand '" ++ extra ++ "'")
        return Comparing.openBoth call orders names
    match job with
    | .ok job | .error job => job)
    fun arguments job =>
      match read arguments with
      | .ok _ => job
      | .error refusal => refusal

end Utility

end ArtifactLens.Shell
