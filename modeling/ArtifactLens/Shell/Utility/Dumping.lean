import ArtifactLens.Shell.Utility.Choice
import ArtifactLens.Shell.Utility.Dumping.Style
import ArtifactLens.Shell.Utility.Filtering

/-!
# Dumping octets

The program `od` shows its inputs, put together, as blocks of octets in one or several styles, each line
under the address of its first octet. A block that is the same as the one before is left out, and a star
stands for all that are left out in a row (`Dump.row`). It can look for strings instead, which are runs of
characters that end with a zero (`Dump.strings`).
-/

namespace ArtifactLens.Shell

namespace Utility

namespace Dump

/-! ### Inputs -/

/-- The inputs that are taken as one. -/
structure Intake where
  /-- Inputs that were not opened yet. -/
  names : List String
  /-- The title and the descriptor of the input that is read. -/
  current : Option (String × Nat) := none
  /-- Octets that were read and not taken yet. -/
  buffer : List Nat := []
  /-- No more is read than is wanted. -/
  isExact : Bool := false
  /-- The input proper is among the inputs, and there is none. -/
  lacksInput : Bool := false

/-- How the inputs have been gone through. -/
abbrev Going := Progress Intake

/-- Opens the next input that can be opened. -/
def openNext (call : Invocation) (next : Going → Job) : List String → Going → Job
  | [], going => next { going with state := { going.state with names := [], current := none } }
  | name :: names, going =>
    let enter (title : String) (descriptor : Nat) : Job :=
      next { going with state := { going.state with names, current := some (title, descriptor) } }
    if name = "-" then enter "standard input" 0
    else
      .open name { reads := true } fun opened =>
        match opened with
        | .ok descriptor => enter name descriptor
        | .error fault =>
          going.warn call (call.quoteTitle name ++ ": " ++ fault.message) fun going =>
            openNext call next names { going with failed := true }

/-- Leaves an input for the next one. -/
def leave (call : Invocation) (next : Going → Job) (fault : Option SystemFault) (going : Going) :
    Job :=
  match going.state.current with
  | none => next going
  | some (title, descriptor) =>
    let goOn (going : Going) : Job :=
      let open_ : Job := openNext call next going.state.names going
      if descriptor = 0 then open_ else .close descriptor open_
    match fault with
    | none => goOn going
    | some fault =>
      going.warn call (call.quoteTitle title ++ ": " ++ fault.message) fun going =>
        let lacksInput := going.state.lacksInput ||
          (descriptor == 0 && fault == SystemFault.badDescriptor)
        goOn { going with failed := true, state := { going.state with lacksInput } }

/-- Reads until so many octets are there, or the inputs are over. -/
def fill (call : Invocation) (count : Nat) (next : Going → Job) : (measure : Nat) → Going → Job
  | 0, going => next going
  | measure + 1, going =>
    let intake := going.state
    match intake.current with
    | none => next going
    | some (_, descriptor) =>
      if intake.buffer.length ≥ count then next going
      else
        let wanted := if intake.isExact then count - intake.buffer.length else pieceSize
        .read descriptor wanted fun piece =>
          match piece with
          | .ok "" => leave call (fill call count next measure) none going
          | .ok text =>
            let buffer := intake.buffer ++ text.toList.map Char.toNat
            fill call count next measure { going with state := { intake with buffer } }
          | .error fault => leave call (fill call count next measure) (some fault) going

/-- Skips octets. An input that has no size can be skipped by any number of them. -/
def skip (call : Invocation) (next : Going → Job) : (measure : Nat) → Nat → Going → Job
  | 0, _, going => next going
  | _ + 1, 0, going => next going
  | measure + 1, count, going =>
    match going.state.current with
    | none => going.fail call "cannot skip past end of combined input"
    | some (_, descriptor) =>
      .look descriptor fun (opened : Option OpenFile) =>
        let isSizeless : Bool := match opened with
          | some { channel := .null, .. } | some { channel := .zero, .. }
          | some { channel := .full, .. } | some { channel := .directory _, .. } => true
          | _ => false
        if isSizeless then next going
        else
          .read descriptor (min count pieceSize) fun piece =>
            match piece with
            | .ok "" => leave call (skip call next measure count) none going
            | .ok text => skip call next measure (count - text.length) going
            | .error fault => leave call (skip call next measure count) (some fault) going

/-! ### Addresses -/

/-- How addresses are written. -/
structure Address where
  /-- None are written without a base. -/
  base : Option Nat := some 8
  width : Nat := 7
  /-- The second address that the first octet has, in parentheses. -/
  label : Option Nat := none

namespace Address

/-- An address, given how far it is from the first octet. -/
def text (address : Address) (first place : Nat) (ending : String) : String :=
  let plain (base n : Nat) : String := DumpStyle.digits base address.width n
  match address.base, address.label with
  | none, none => ""
  | some base, none => plain base (first + place) ++ ending
  | none, some label => "(" ++ DumpStyle.digits 8 7 (label + place) ++ ")" ++ ending
  | some base, some label =>
    plain base (first + place) ++ " (" ++ plain base (label + place) ++ ")" ++ ending

/-- What stands in front of further lines of a block. -/
def blank (address : Address) : String :=
  let width := if address.base.isNone ∧ address.label.isSome then 7
    else if address.base.isNone then 0 else address.width
  String.ofList (List.replicate width ' ')

end Address

/-! ### Options -/

/-- What was asked for. -/
structure Orders where
  styles : List DumpStyle := []
  address : Address := {}
  skipped : Nat := 0
  most : Option Nat := none
  /-- The least length of the strings that are looked for. -/
  stringLength : Option Nat := none
  abbreviates : Bool := true
  /-- The width of a block. -/
  width : Option Nat := none
  swaps : Bool := false
  /-- An option was used that operands of the old kind do not go with. -/
  isModern : Bool := false
  isTraditional : Bool := false
  /-- What was complained about. -/
  complaints : List String := []

namespace Orders

/-- Ends with a job, once all was complained about. -/
def refuse {α : Type} (call : Invocation) (orders : Orders) (job : Job) : Except Job α :=
  .error (orders.complaints.reverse.foldr (Job.warn call) job)

/-- The number that an option is given. -/
def number (call : Invocation) (orders : Orders) (base : Nat) (letters option text : String) :
    Except Job Nat :=
  let fail (complaint : String) : Except Job Nat := orders.refuse call (Job.fail call complaint)
  match Amount.scan? base letters text.toList with
  | none => fail ("invalid " ++ option ++ " argument '" ++ text ++ "'")
  | some (value, rest) =>
    if !rest.isEmpty then fail ("invalid suffix in " ++ option ++ " argument '" ++ text ++ "'")
    else if value > Amount.greatest then fail (option ++ " argument '" ++ text ++ "' too large")
    else .ok value

/-- Suffixes of sizes. -/
def multiples : String := "bEGKkMmPTYZ0"

/-- Adds the styles that a text tells. -/
def addStyles (call : Invocation) (orders : Orders) (text : String) : Orders :=
  match DumpStyle.read text with
  | .ok styles => { orders with styles := orders.styles ++ styles }
  | .error fault => { orders with complaints := fault.message call text :: orders.complaints }

/-- The texts that stand for letters of styles. -/
def styleOf? (letter : Char) : Option String :=
  [('a', "a"), ('b', "o1"), ('c', "c"), ('D', "u4"), ('d', "u2"), ('F', "fD"), ('e', "fD"),
    ('f', "fF"), ('X', "x4"), ('H', "x4"), ('i', "dI"), ('I', "dL"), ('L', "dL"), ('l', "dL"),
    ('O', "o4"), ('B', "o2"), ('o', "o2"), ('s', "d2"), ('h', "x2"), ('x', "x2")].lookup letter

/-- The ways to order the octets of a number. -/
def orderChoice : Choice Bool :=
  { option := "--endian", words := [("little", false), ("big", true)] }

/-- The width of a block that an option tells. There is no way on from none at all. -/
def widthOf (call : Invocation) (orders : Orders) (option value : String) : Except Job Nat := do
  let width ← orders.number call 10 "" option value
  if width = 0 then orders.refuse call (.own fun own => .signal own 6 false (.exit 134))
  else return width

/-- Takes one more option. -/
def add (call : Invocation) (orders : Orders) (option : Char × String) : Except Job Orders := do
  let (letter, value) := option
  let modern := { orders with isModern := true }
  let fail (complaint : String) : Except Job Orders := orders.refuse call (Job.fail call complaint)
  match letter with
  | 'A' =>
    match value.toList.headD '\x00' with
    | 'd' => return { modern with address := { base := some 10 } }
    | 'o' => return { modern with address := {} }
    | 'x' => return { modern with address := { base := some 16, width := 6 } }
    | 'n' => return { modern with address := { base := none } }
    | c =>
      fail ("invalid output address radix '" ++ String.singleton c ++
        "'; it must be one character from [doxn]")
  | 'j' => return { modern with skipped := ← orders.number call 0 multiples "-j" value }
  | 'σ' => return { modern with skipped := ← orders.number call 0 multiples "--skip-bytes" value }
  | 'N' => return { modern with most := some (← orders.number call 0 multiples "-N" value) }
  | 'ν' => return { modern with most := some (← orders.number call 0 multiples "--read-bytes" value) }
  | 'S' => return { modern with stringLength := some (← orders.number call 0 multiples "-S" value) }
  | 'ς' =>
    return { modern with stringLength := some (← orders.number call 0 multiples "--strings" value) }
  | 'Σ' => return { modern with stringLength := some 3 }
  | 't' => return modern.addStyles call value
  | 'v' => return { modern with abbreviates := false }
  | 'τ' => return { orders with isTraditional := true }
  | 'w' => return { modern with width := some (← orders.widthOf call "-w" value) }
  | 'ω' => return { modern with width := some (← orders.widthOf call "--width" value) }
  | 'Ω' => return { modern with width := some 32 }
  | 'ε' =>
    match orderChoice.meaning value with
    | .ok swaps => return { orders with swaps }
    | .error fault => orders.refuse call (Job.misuse call (orderChoice.complaint call value fault))
  | letter =>
    match styleOf? letter with
    | some text => return orders.addStyles call text
    | none => return orders

/-- The offset that an operand of the old kind tells: octal, hexadecimal after a mark, and decimal if there is
a point in it. -/
def offset? (text : String) : Option Nat := do
  let body := if text.startsWith "+" then text.toList.drop 1 else text.toList
  if text = "" then none
  else
    let base := if body.contains '.' then 10
      else match body with
      | '0' :: 'x' :: _ | '0' :: 'X' :: _ => 16
      | _ => 8
    let (value, rest) ← Amount.scan? base "Bb" body
    if rest.isEmpty ∧ value ≤ Amount.greatest then some value else none

/-- Takes offsets from among the operands; the names of inputs are left. -/
def takeOffsets (call : Invocation) (orders : Orders) (operands : List String) :
    Except Job (Orders × List String) := do
  let labelled (skipped label : Nat) : Orders :=
    { orders with skipped, address := { orders.address with label := some label } }
  let looksOld (text : String) : Bool := orders.isTraditional || text.startsWith "+"
  let (orders, names) : Orders × List String :=
    if orders.isModern ∧ !orders.isTraditional then (orders, operands)
    else
      match operands with
      | [one] =>
        match offset? one with
        | some skipped => if looksOld one then ({ orders with skipped }, []) else (orders, operands)
        | none => (orders, operands)
      | [one, two] =>
        if looksOld two ∨ two.startsWith Char.isDigit then
          match offset? two, (if orders.isTraditional then offset? one else none) with
          | some label, some skipped => (labelled skipped label, [])
          | some skipped, none => ({ orders with skipped }, [one])
          | none, _ => (orders, operands)
        else (orders, operands)
      | [one, two, three] =>
        match (if orders.isTraditional then offset? two else none), offset? three with
        | some skipped, some label => (labelled skipped label, [one])
        | _, _ => (orders, operands)
      | _ => (orders, operands)
  match orders.isTraditional, names with
  | true, _ :: extra :: _ =>
    .error (Job.warn call ("extra operand " ++ call.quote extra)
      (Job.misuse call "compatibility mode supports at most one file"))
  | _, names => return (orders, names)

end Orders

/-! ### Blocks -/

/-- How far the blocks have been shown. -/
structure Shown where
  /-- How many octets were shown. -/
  count : Nat := 0
  before : Option (List Nat) := none
  /-- The last block was left out. -/
  isStarred : Bool := false

/-- The lines of a block; nothing or a star if it is the same as the one before. -/
def row (orders : Orders) (perBlock total : Nat) (octets : List Nat) (shown : Shown) :
    String × Shown :=
  let after := { shown with count := shown.count + octets.length, before := some octets }
  if orders.abbreviates ∧ shown.before = some octets ∧ octets.length = perBlock then
    (if shown.isStarred then "" else "*\n", { after with isStarred := true })
  else
    let address := orders.address
    let lines := orders.styles.zipIdx.map fun (style, i) =>
      (if i = 0 then address.text orders.skipped shown.count "" else address.blank) ++
        style.line orders.swaps perBlock total octets ++ "\n"
    (String.join lines, { after with isStarred := false })

/-- Ends; whether the input proper was missing is told once more. -/
def finish (call : Invocation) (going : Going) : Job :=
  if going.state.lacksInput then
    going.fail call ("standard input: " ++ SystemFault.badDescriptor.message)
  else going.finish call

/-- Shows blocks until the inputs are over, or enough was shown. -/
def showBlocks (call : Invocation) (orders : Orders) (perBlock total : Nat) :
    (measure : Nat) → Shown → Going → Job
  | 0, _, going => finish call going
  | measure + 1, shown, going =>
    let room := (orders.most.map (· - shown.count)).getD perBlock
    let wanted := min perBlock room
    let ending (shown : Shown) (going : Going) : Job :=
      going.put (orders.address.text orders.skipped shown.count "\n") (finish call)
    if wanted = 0 then ending shown going
    else
      fill call wanted (fun going =>
        let octets := going.state.buffer.take wanted
        let going := { going with
          state := { going.state with buffer := going.state.buffer.drop wanted } }
        let (text, shown) := if octets.isEmpty then ("", shown) else row orders perBlock total octets shown
        going.put text fun going =>
          if octets.length < perBlock then ending shown going
          else showBlocks call orders perBlock total measure shown going) mostReads going

/-! ### Strings -/

/-- Strings of a least length with their places; `place` is where the text begins, and beyond `stop` nothing
is looked at. A string whose end lies beyond is taken to have one. -/
def strings (least : Nat) (stop : Option Nat) : (measure place : Nat) → List Nat → List (Nat × List Nat)
  | 0, _, _ => []
  | measure + 1, place, text =>
    if stop.any fun stop => stop < least || stop - least ≤ place then []
    else
      let front := text.take least
      match front.findIdx? fun octet => !DumpStyle.isShown octet with
      | some n => strings least stop measure (place + n + 1) (text.drop (n + 1))
      | none =>
        if front.length < least then []
        else
          let rest := text.drop least
          let room := (stop.map (· - (place + least))).getD (rest.length + 1)
          let more := (rest.take room).takeWhile DumpStyle.isShown
          let after := rest.drop more.length
          let run := front ++ more
          if more.length = room then
            ((if place = 0 then Amount.greatest else place - 1), run) ::
              strings least stop measure (place + run.length) after
          else
            match after with
            | 0 :: after => (place, run) :: strings least stop measure (place + run.length + 1) after
            | _ :: after => strings least stop measure (place + run.length + 1) after
            | [] => []

/-- Shows strings. -/
def showStrings (call : Invocation) (orders : Orders) (least : Nat) (going : Going) : Job :=
  let wanted := orders.most.getD (pieceSize * mostReads)
  fill call wanted (fun going =>
    let text := going.state.buffer.take wanted
    let stop := orders.most.map (· + orders.skipped)
    let found := strings least stop (2 * text.length + 2) orders.skipped text
    let lines := found.map fun (place, run) =>
      orders.address.text 0 place " " ++ String.ofList (run.map Char.ofNat) ++ "\n"
    going.put (String.join lines) (finish call)) mostReads going

/-! ### The whole -/

/-- Shows inputs as orders say. -/
def run (call : Invocation) (orders : Orders) (names : List String) : Job :=
  let orders := if orders.styles.isEmpty then
      { orders with styles := [{ kind := .natural 8, size := 2 }] }
    else orders
  let together := orders.styles.foldl (fun n style => Nat.lcm n style.size) 1
  let standard := if together < 16 then together * (16 / together) else together
  let (perBlock, warning) := match orders.width with
    | none => (standard, none)
    | some width =>
      if width % together = 0 then (width, none)
      else
        (together, some ("warning: invalid width " ++ toString width ++ "; using " ++
          toString together ++ " instead"))
  let total := orders.styles.foldl (fun n style =>
    max n ((style.width + 1) * (perBlock / style.size))) 0
  let names := if names.isEmpty then ["-"] else names
  let start : Going := { state := { names, isExact := orders.most.isSome } }
  openNext call (fun going =>
    if going.state.current.isNone then .exit 1
    else
      skip call (fun going =>
        if going.state.current.isNone then going.finish call
        else
          let goOn (going : Going) : Job :=
            match orders.stringLength with
            | some least => showStrings call orders least going
            | none => showBlocks call orders perBlock total mostReads {} going
          match warning with
          | some warning => going.warn call warning goOn
          | none => goOn going) mostReads orders.skipped going) names start

/-- The options of `od`. -/
def accepted : Accepted :=
  { letters := "A:aBbcDdeFfHhIij:LlN:OoS:st:vXxσ:ν:τε:"
    attached := "wςω"
    bare := [('w', 'Ω'), ('ς', 'Σ'), ('ω', 'Ω')]
    names := [("skip-bytes", 'σ'), ("address-radix", 'A'), ("read-bytes", 'ν'), ("format", 't'),
      ("output-duplicates", 'v'), ("strings", 'ς'), ("traditional", 'τ'), ("width", 'ω'),
      ("endian", 'ε')] }

end Dump

/-- The program `od`. -/
def od : Utility := fun call =>
  let read (arguments : Arguments) : Except Job Dump.Orders :=
    arguments.options.foldlM (Dump.Orders.add call) {}
  Dump.accepted.read call 1 (fun arguments =>
    let job : Except Job Job := do
      let orders ← read arguments
      if !orders.complaints.isEmpty then orders.refuse call (.exit 1)
      if orders.stringLength.isSome ∧ !orders.styles.isEmpty then
        throw (Job.fail call "no type may be specified when dumping strings")
      let (orders, names) ← orders.takeOffsets call arguments.operands
      if orders.skipped + orders.most.getD 0 > Amount.greatest then
        throw (Job.fail call "skip-bytes + read-bytes is too large")
      return Dump.run call orders names
    match job with
    | .ok job | .error job => job)
    fun arguments job =>
      match read arguments with
      | .ok orders => orders.complaints.reverse.foldr (Job.warn call) job
      | .error refusal => refusal

end Utility

end ArtifactLens.Shell
