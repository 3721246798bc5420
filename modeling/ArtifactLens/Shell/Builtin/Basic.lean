import ArtifactLens.Shell.State

/-!
# Commands that the shell has of its own

Such a command replies with the shell as it leaves it, a status, and what it writes. A command
that refuses its arguments replies with the reason; whether that ends the shell depends on the
command.
-/

namespace ArtifactLens.Shell

/-- What a command of the shell replies. -/
structure Reply where
  shell : Shell
  status : Nat := 0
  output : String := ""
  /-- What is written to the output of complaints, in whole lines. -/
  complaints : String := ""
  /-- Why the command refused to go on. -/
  fault : Option ShellFault := none

namespace Reply

/-- A reply that refuses. -/
def refuse (shell : Shell) (complaint : String) : Reply :=
  { shell, status := 2, fault := some (.complaint complaint) }

/-- A reply with a changed memory, or the refusal of the change. -/
def ofMemory (shell : Shell) : Except ShellFault Memory → Reply
  | .ok memory => { shell := shell.remember memory }
  | .error fault => { shell, status := 2, fault := some fault }

/-- A reply that warns and fails. -/
def warn (shell : Shell) (text : String) (status : Nat := 1) : Reply :=
  { shell, status, complaints := shell.message text }

end Reply

/-! ### Arguments -/

namespace Argument

/-- Quotes a text so that the shell reads it as one word: in single quotes, with double quotes
around the single quotes in it. `afterQuotes` tells that only what follows a run of single quotes
is left. -/
def quoteFrom (text : List Char) : (measure : Nat) → String
  | 0 => ""
  | measure + 1 =>
    let plain := text.takeWhile (· != '\'')
    let rest := text.drop plain.length
    let quotes := rest.takeWhile (· == '\'')
    let after := rest.drop quotes.length
    "'" ++ String.ofList plain ++ "'" ++
      if quotes.isEmpty then ""
      else
        "\"" ++ String.ofList quotes ++ "\"" ++ if after.isEmpty then "" else quoteFrom after measure

/-- A text in a form that the shell reads as one word. -/
def quote (text : String) : String := quoteFrom text.toList (text.length + 1)

/-- Reads options that are single letters; those before a colon take a value. The options in
order, and the other arguments, or the letter that is refused with whether its value is
missing. -/
def options (accepted : String) (args : List String) :
    Except (Char × Bool) (List (Char × String) × List String) :=
  let takesValue (c : Char) : Option Bool :=
    let rest := accepted.toList.dropWhile (· != c)
    match rest with
    | [] => none
    | _ :: ':' :: _ => some true
    | _ => some false
  let rec letters (done : List (Char × String)) :
      List Char → List String → Except (Char × Bool) (List (Char × String) × List String)
    | [], rest => .ok (done, rest)
    | c :: more, rest =>
      match if c = ':' then none else takesValue c with
      | none => .error (c, false)
      | some false => letters (done ++ [(c, "")]) more rest
      | some true =>
        if !more.isEmpty then .ok (done ++ [(c, String.ofList more)], rest)
        else
          match rest with
          | value :: rest => .ok (done ++ [(c, value)], rest)
          | [] => .error (c, true)
  let rec words (done : List (Char × String)) :
      (measure : Nat) → List String → Except (Char × Bool) (List (Char × String) × List String)
    | 0, rest => .ok (done, rest)
    | _ + 1, [] => .ok (done, [])
    | measure + 1, word :: rest =>
      match word.toList with
      | ['-'] => .ok (done, word :: rest)
      | ['-', '-'] => .ok (done, rest)
      | '-' :: cs =>
        match letters done cs rest with
        | .ok (done, rest) => words done measure rest
        | .error fault => .error fault
      | _ => .ok (done, word :: rest)
  words [] (args.length + 1) args

/-- The complaint about an option. -/
def optionComplaint : Char × Bool → String
  | (c, false) => "Illegal option -" ++ String.singleton c
  | (c, true) => "No arg for -" ++ String.singleton c ++ " option"

end Argument

end ArtifactLens.Shell
