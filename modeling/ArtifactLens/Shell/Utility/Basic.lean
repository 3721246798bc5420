import ArtifactLens.Shell.Utility.Quoting

/-!
# Arguments and lines of programs

How programs read their options, and how they take a text apart into lines. Options may stand
among the other arguments; a long option may be cut short as long as it is told from the others.
-/

namespace ArtifactLens.Shell

namespace Utility

/-- The options that a program takes: letters, those before a colon with a value, and names that
stand for letters. A letter beyond ASCII belongs to an option that has a name alone. -/
structure Accepted where
  letters : String
  names : List (String × Char) := []
  /-- Letters whose value is what follows them at once, if anything does. -/
  attached : String := ""
  /-- What letters of `attached` become where no value follows them. -/
  bare : List (Char × Char) := []
  /-- Reading ends after the option of this letter; all that follows it counts as other arguments. -/
  closing : Option Char := none
  /-- An option in front may be a number alone. -/
  numbers : Bool := false
  /-- Options end at the first other argument. -/
  leading : Bool := false
  /-- Arguments with a plus in front that are options; a minus with a number may follow them. The
  letters of both are their signs. -/
  isSigned : String → Bool := fun _ => false
  /-- Other arguments stand among the options too, as values of this letter. -/
  operandLetter : Option Char := none
  /-- The collection that the program belongs to, and which edition of it. -/
  package : String := "GNU coreutils) 9.1"
  /-- The hint at help bears the name of the program. -/
  namesHint : Bool := false

/-- The options and the other arguments of a call. -/
structure Arguments where
  options : List (Char × String) := []
  operands : List String := []

/-- Why arguments are refused. -/
inductive Misuse where
  | unknownLetter (letter : Char)
  | noValue (letter : Char)
  | unknownName (text : String)
  | ambiguousName (text : String) (names : List String)
  | noNamedValue (name : String)
  | needlessValue (name : String)
  deriving DecidableEq, Repr

/-- The wording of a misuse. -/
def Misuse.message : Misuse → String
  | .unknownLetter letter => "invalid option -- '" ++ String.singleton letter ++ "'"
  | .noValue letter => "option requires an argument -- '" ++ String.singleton letter ++ "'"
  | .unknownName text => "unrecognized option '" ++ text ++ "'"
  | .ambiguousName text names =>
    "option '" ++ text ++ "' is ambiguous; possibilities:" ++
      String.join (names.map fun name => " '--" ++ name ++ "'")
  | .noNamedValue name => "option '--" ++ name ++ "' requires an argument"
  | .needlessValue name => "option '--" ++ name ++ "' doesn't allow an argument"

namespace Accepted

/-- Whether an option takes a value, if it is accepted at all. -/
def takesValue? (accepted : Accepted) (letter : Char) : Option Bool :=
  if letter = ':' then none
  else
    match accepted.letters.toList.dropWhile (· != letter) with
    | [] => none
    | _ :: ':' :: _ => some true
    | _ => some false

/-- An option without the value that it may have. -/
def bareOption (accepted : Accepted) (letter : Char) : Char × String :=
  (((accepted.bare.find? (·.1 == letter)).map (·.2)).getD letter, "")

/-- Reads the letters of one argument; a misuse comes with what was read before it. -/
def readLetters (accepted : Accepted) (done : Arguments) :
    List Char → List String → Except (Arguments × Misuse) (Arguments × List String)
  | [], rest => .ok (done, rest)
  | letter :: more, rest =>
    let add (value : String) : Arguments := { done with options := (letter, value) :: done.options }
    if accepted.attached.contains letter then
      if more.isEmpty then
        .ok ({ done with options := accepted.bareOption letter :: done.options }, rest)
      else .ok (add (String.ofList more), rest)
    else match accepted.takesValue? letter with
    | none => .error (done, .unknownLetter letter)
    | some false => readLetters accepted (add "") more rest
    | some true =>
      if !more.isEmpty then .ok (add (String.ofList more), rest)
      else
        match rest with
        | value :: rest => .ok (add value, rest)
        | [] => .error (done, .noValue letter)

/-- Reads a long option. -/
def readName (accepted : Accepted) (done : Arguments) (arg : String) (rest : List String) :
    Except Misuse (Arguments × List String) :=
  let name := ((arg.drop 2).takeWhile (· != '=')).toString
  let value? := if name.length + 2 < arg.length then some (arg.drop (name.length + 3)).toString
    else none
  let exact := accepted.names.filter (·.1 == name)
  let found := if exact.isEmpty then accepted.names.filter (·.1.startsWith name) else exact
  match found with
  | [] => .error (.unknownName arg)
  | (full, letter) :: others =>
    let different := others.filter (·.2 != letter)
    if !different.isEmpty then .error (.ambiguousName arg (full :: different.map (·.1)))
    else
      let add (value : String) : Arguments :=
        { done with options := (letter, value) :: done.options }
      if accepted.attached.contains letter then
        match value? with
        | some value => .ok (add value, rest)
        | none =>
          .ok ({ done with options := accepted.bareOption letter :: done.options }, rest)
      else match accepted.takesValue? letter, value?, rest with
      | some true, some value, rest => .ok (add value, rest)
      | some true, none, value :: rest => .ok (add value, rest)
      | some true, none, [] => .error (.noNamedValue full)
      | _, some _, _ => .error (.needlessValue full)
      | _, none, rest => .ok (add "", rest)

/-- Reads arguments as far as they can be read; also tells what is wrong with the next one. `done`
holds what was read, in reverse. -/
def readFrom (accepted : Accepted) (done : Arguments) :
    (measure : Nat) → List String → Arguments × Option Misuse
  | 0, _ => (done, none)
  | _ + 1, [] => (done, none)
  | measure + 1, arg :: rest =>
    let goOn (found : Except (Arguments × Misuse) (Arguments × List String)) :
        Arguments × Option Misuse :=
      match found with
      | .ok (done, rest) =>
        if accepted.closing.isSome ∧ (done.options.head?.map (·.1)) = accepted.closing then
          ({ done with operands := rest.reverse ++ done.operands }, none)
        else readFrom accepted done measure rest
      | .error (done, misuse) => (done, some misuse)
    match arg.toList with
    | '-' :: '-' :: [] => ({ done with operands := rest.reverse ++ done.operands }, none)
    | '-' :: '-' :: _ => goOn ((accepted.readName done arg rest).mapError (done, ·))
    | '-' :: c :: more =>
      if accepted.numbers ∧ c.isDigit then
        let digits := (c :: more).takeWhile Char.isDigit
        let done := { done with options := ('n', String.ofList digits) :: done.options }
        goOn (accepted.readLetters done ((c :: more).drop digits.length) rest)
      else goOn (accepted.readLetters done (c :: more) rest)
    | _ =>
      if accepted.leading then
        ({ done with operands := (arg :: rest).reverse ++ done.operands }, none)
      else if accepted.isSigned arg then
        let done := { done with options := ('+', arg) :: done.options }
        match rest.head?.filter fun next => next.startsWith "-" && (next.drop 1).startsWith Char.isDigit with
        | some next =>
          readFrom accepted { done with options := ('-', next) :: done.options } measure (rest.drop 1)
        | none => readFrom accepted done measure rest
      else
        let options := match accepted.operandLetter with
          | some letter => (letter, arg) :: done.options
          | none => done.options
        readFrom accepted { options, operands := arg :: done.operands } measure rest

/-- The letter of the option that every program has for its usage. -/
def helpLetter : Char := '⁇'

/-- The letter of the option that every program has for its edition. -/
def versionLetter : Char := '№'

/-- Complains about the use of the program and ends. -/
def misuse (accepted : Accepted) (call : Invocation) (text : String) (status : Nat) : Job :=
  if accepted.namesHint then
    Job.warn call text
      (Job.fail call ("Try '" ++ call.name ++ " --help' for more information.") status)
  else Job.misuse call text status

/-- Options end at the first other argument because the call asks for that. -/
def isLeading (accepted : Accepted) (call : Invocation) : Bool :=
  accepted.leading || (accepted.operandLetter.isNone && (call.value? "POSIXLY_CORRECT").isSome)

/-- The words of a call that are no operands: options, their values, and what ends them. -/
def optionWords (accepted : Accepted) (call : Invocation) : List String :=
  let accepted := { accepted with leading := accepted.isLeading call }
  let count (size : Nat) : Nat :=
    (accepted.readFrom {} (size + 1) (call.args.take size)).1.operands.length
  (call.args.zipIdx.filter fun (_, place) => count (place + 1) == count place).map (·.1)

/-- Reads the arguments of a call and goes on with them. Where they are misused, or ask for help, that
comes after what `early` makes of the options in front. -/
def read (accepted : Accepted) (call : Invocation) (status : Nat)
    (next : Arguments → Job) (early : Arguments → Job → Job := fun _ job => job) : Job :=
  -- Whoever asks for options in front only gets them so, unless other arguments count as options.
  let accepted := { accepted with
    leading := accepted.isLeading call
    letters := accepted.letters ++ String.ofList [helpLetter, versionLetter]
    names := accepted.names ++ [("help", helpLetter), ("version", versionLetter)] }
  let (done, misuse) := accepted.readFrom {} (call.args.length + 1) call.args
  let options := done.options.reverse
  let before := options.takeWhile fun option =>
    option.1 != helpLetter && option.1 != versionLetter
  let own := (call.name.splitOn "/").getLastD ""
  match options.drop before.length, misuse with
  | (letter, _) :: _, _ =>
    early { options := before } <|
      if letter = helpLetter then Job.answer call ("Usage: " ++ call.name ++ " [OPTION]...\n")
      else Job.answer call (own ++ " (" ++ accepted.package ++ "\n")
  | [], some misuse => early { options } (accepted.misuse call misuse.message status)
  | [], none => next ⟨options, done.operands.reverse⟩

end Accepted

namespace Arguments

/-- The option was given. -/
def has (arguments : Arguments) (letter : Char) : Bool :=
  arguments.options.any (·.1 == letter)

/-- The last value given for an option. -/
def value? (arguments : Arguments) (letter : Char) : Option String :=
  (arguments.options.reverse.find? (·.1 == letter)).map (·.2)

/-- All values given for an option. -/
def values (arguments : Arguments) (letter : Char) : List String :=
  (arguments.options.filter (·.1 == letter)).map (·.2)

/-- The last given of some options. -/
def last? (arguments : Arguments) (letters : List Char) : Option (Char × String) :=
  arguments.options.reverse.find? fun option => letters.contains option.1

end Arguments

/-! ### Lines -/

/-- A text, with whether an end of line belongs to it. -/
structure Line where
  text : String := ""
  ended : Bool := true

/-- The lines of a text without their newlines. -/
def linesOf (text : String) : List String :=
  if text = "" then []
  else
    let pieces := text.splitOn "\n"
    if text.endsWith "\n" then pieces.dropLast else pieces

/-- The last line lacks its newline. -/
def isUnterminated (text : String) : Bool := text != "" && !text.endsWith "\n"

/-- Lines as a text. -/
def unlines (lines : List String) : String := String.join (lines.map (· ++ "\n"))

/-- Applies a function to each line; a last line without a newline stays without one. -/
def mapLines (f : String → String) (text : String) : String :=
  let lines := (linesOf text).map f
  if isUnterminated text then String.intercalate "\n" lines else unlines lines

/-- The value of a text of digits, with a letter for a multiple after them. -/
def size? (text : String) : Option Nat :=
  let digits := text.toList.takeWhile Char.isDigit
  if digits.isEmpty then none
  else
    let n := Digit.numeral digits
    match String.ofList (text.toList.drop digits.length) with
    | "" => some n
    | "b" => some (512 * n)
    | "k" | "K" | "KiB" => some (1024 * n)
    | "kB" | "KB" => some (1000 * n)
    | "m" | "M" | "MiB" => some (1024 * 1024 * n)
    | "MB" => some (1000 * 1000 * n)
    | "G" | "GiB" => some (1024 * 1024 * 1024 * n)
    | _ => none

/-- A text padded with blanks on the left. -/
def right (width : Nat) (text : String) : String := Digit.padLeft width ' ' text

/-- A text padded with blanks on the right. -/
def left (width : Nat) (text : String) : String :=
  text ++ String.ofList (List.replicate (width - text.length) ' ')

end Utility

end ArtifactLens.Shell
