import ArtifactLens.Shell.Utility.Speaking

/-!
# Launching programs

How programs turn into others, and how they name signals.
-/

namespace ArtifactLens.Shell

namespace Signal

/-- The name of a signal in messages, if it can be named. -/
def title? (number : Nat) : Option String :=
  if number = 0 then some "EXIT"
  else if number = 29 then some "POLL"
  else
    match name? number with
    | some name => some name
    | none =>
      if number ≤ 34 ∨ 64 < number then none
      else if number ≤ 49 then some ("RTMIN+" ++ toString (number - 34))
      else some ("RTMAX-" ++ toString (64 - number))

/-- The name of a signal in messages. -/
def title (number : Nat) : String := (title? number).getD (toString number)

/-- All signals that can be named. -/
def all : List Nat := (List.range 65).filter fun number => number != 0 && (title? number).isSome

/-- The names that signals have besides. -/
def aliases : List (String × Nat) := [("IOT", 6), ("CLD", 17), ("IO", 29), ("POLL", 29), ("EXIT", 0)]

/-- The value of an integer after blanks, which may be missing altogether. -/
def offset? (text : List Char) : Option Int :=
  if text.isEmpty then some 0
  else
    let body := text.dropWhile Arithmetic.isSpace
    let (negative, digits) := match body with
      | '-' :: rest => (true, rest)
      | '+' :: rest => (false, rest)
      | rest => (false, rest)
    if digits.isEmpty ∨ !digits.all Char.isDigit then none
    else some (if negative then -(Digit.numeral digits : Int) else Digit.numeral digits)

/-- The signal of a name in capitals, or of a number that stands for one. -/
def ofName? (name : String) : Option Nat :=
  if name.startsWith Char.isDigit then
    if name.toList.all Char.isDigit then
      some (Digit.numeral name.toList) |>.filter (· ≤ 64)
    else none
  else
    match number? name <|> (aliases.find? (·.1 == name)).map (·.2) with
    | some number => some number
    | none =>
      let near (start : String) (least most : Int) (base : Int) : Option Nat := do
        if !name.startsWith start then none
        else
          let offset ← offset? (name.toList.drop start.length)
          if offset < least ∨ most < offset then none else some (base + offset).toNat
      near "RTMIN" 0 30 34 <|> near "RTMAX" (-30) 0 64

/-- The signal that a word stands for: its number, or that of a process that it ended; or its name,
with `SIG` in front or without it. -/
def ofWord? (word : String) : Option Nat := do
  let number ←
    if word.startsWith Char.isDigit then
      if word.toList.all Char.isDigit then
        let value := Digit.numeral word.toList
        if value < 2 ^ 31 then some (if value ≥ 255 then value % 256 else value % 128) else none
      else none
    else
      let name := word.map Char.toUpper
      ofName? name <|>
        (if name.startsWith "SIG" then ofName? (name.drop 3).toString else none)
  if (title? number).isSome then some number else none

end Signal

namespace Utility

/-- Sets a name in an environment. -/
def setName (environment : Environment) (name value : String) : Environment :=
  if environment.any (·.1 == name) then
    environment.map fun entry => if entry.1 == name then (name, value) else entry
  else environment ++ [(name, value)]

/-- Turns into a program, or complains. -/
def turnInto (call : Invocation) (complaint : String → String) (environment : Environment)
    (words : List String) (hint : Job → Job := fun job => job) : Job :=
  match words with
  | [] => .exit 0
  | name :: args =>
    let path := if name.contains '/' then name else ""
    .become path (name :: args) environment fun fault =>
      Job.warn call (complaint name ++ ": " ++ fault.message)
        (if fault = .missing then hint (.exit 127) else .exit 126)

/-- Turns into a program in the environment of the call. -/
def runCommand (call : Invocation) (words : List String) : Job :=
  turnInto call (fun name => "failed to run command " ++ call.quote name) call.environment words

end Utility

end ArtifactLens.Shell
