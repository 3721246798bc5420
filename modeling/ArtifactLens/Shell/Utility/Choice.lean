import ArtifactLens.Shell.Utility.Basic

/-!
# Choosing by a word

Some options take one word out of a few. A word may be cut short as long as all words that it may stand
for mean the same.
-/

namespace ArtifactLens.Shell

namespace Utility

/-- The words that an option takes, with what they mean; those that mean the same stand together. -/
structure Choice (Meaning : Type) where
  /-- The option, as complaints name it. -/
  option : String
  words : List (String × Meaning)
  /-- Words must not be cut short. -/
  isExact : Bool := false

namespace Choice

variable {Meaning : Type} [BEq Meaning]

/-- Why a word chooses nothing. -/
inductive Fault where
  | invalid
  | ambiguous
  deriving DecidableEq

/-- What a word stands for. -/
def meaning (choice : Choice Meaning) (word : String) : Except Fault Meaning :=
  match choice.words.find? (·.1 == word) with
  | some (_, meaning) => .ok meaning
  | none =>
    match choice.words.filter fun entry => !choice.isExact && entry.1.startsWith word with
    | [] => .error .invalid
    | (_, meaning) :: others =>
      if others.all (·.2 == meaning) then .ok meaning else .error .ambiguous

/-- The words that can be chosen, a line for each meaning. -/
def list (choice : Choice Meaning) (call : Invocation) : String :=
  (choice.words.foldl (fun (done, last) (word, meaning) =>
    let same : Bool := match last with
      | some other => other == meaning
      | none => false
    (done ++ (if same then ", " else "\n  - ") ++ call.quote word, some meaning))
    ("", (none : Option Meaning))).1

/-- What is said of a word that chooses nothing. -/
def complaint (choice : Choice Meaning) (call : Invocation) (word : String) (fault : Fault) :
    String :=
  (if fault = .ambiguous then "ambiguous" else "invalid") ++ " argument " ++ call.quote word ++
    " for " ++ call.quote choice.option ++ "\nValid arguments are:" ++ choice.list call

/-- Goes on with what a word stands for, or complains and ends. -/
def take (choice : Choice Meaning) (call : Invocation) (word : String) (next : Meaning → Job)
    (status : Nat := 1) : Job :=
  match choice.meaning word with
  | .ok meaning => next meaning
  | .error fault => Job.misuse call (choice.complaint call word fault) status

end Choice

end Utility

end ArtifactLens.Shell
