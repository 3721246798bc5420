import ArtifactLens.Shell.Utility.Filtering

/-!
# Accounts

Programs that tell who somebody is. Accounts and groups are known by the tables of the disk; every
process belongs to the first account.
-/

namespace ArtifactLens.Shell

namespace Utility

/-- An account. -/
structure Account where
  name : String
  number : Nat
  group : Nat

namespace Account

/-- The account of every process. -/
def own : Account := ⟨"root", 0, 0⟩

/-- The tables with what stands between their colons. -/
def table (disk : Disk) (path : String) : List (List String) :=
  match disk.inspect Disk.root path with
  | .ok (_, { body := .octets text, .. }) => (linesOf text).map (·.splitOn ":")
  | _ => []

/-- All accounts of a disk. -/
def all (disk : Disk) : List Account :=
  (table disk "/etc/passwd").filterMap fun fields => do
    match fields with
    | name :: _ :: number :: group :: _ => some ⟨name, ← number.toNat?, ← group.toNat?⟩
    | _ => none

/-- The account that a word stands for by its name, or else by its number. -/
def find? (disk : Disk) (word : String) : Option Account :=
  let accounts := all disk
  let digits := if word.startsWith "+" then (word.drop 1).toString else word
  let byNumber := digits.toNat?.bind fun number => accounts.find? (·.number == number)
  if word.startsWith "+" then byNumber else accounts.find? (·.name == word) <|> byNumber

/-- The name of a group. -/
def groupName? (disk : Disk) (number : Nat) : Option String :=
  (table disk "/etc/group").findSome? fun fields =>
    match fields with
    | name :: _ :: other :: _ => if other.toNat? = some number then some name else none
    | _ => none

/-- The groups of an account: its own first. -/
def groups (disk : Disk) (account : Account) : List Nat :=
  let others := (table disk "/etc/group").filterMap fun fields =>
    match fields with
    | [_, _, number, members] =>
      if (members.splitOn ",").contains account.name then number.toNat? else none
    | _ => none
  account.group :: others.filter (· != account.group)

/-- The name of a group, or its number. -/
def groupText (disk : Disk) (named : Bool) (number : Nat) : String :=
  if named then (groupName? disk number).getD (toString number) else toString number

/-- A number with the name that it has. -/
def labelled (number : Nat) (name? : Option String) : String :=
  toString number ++ (name?.map fun name => "(" ++ name ++ ")").getD ""

/-- All that is known of an account. -/
def describe (disk : Disk) (account : Account) : String :=
  let group (number : Nat) : String := labelled number (groupName? disk number)
  "uid=" ++ labelled account.number (some account.name) ++ " gid=" ++ group account.group ++
    " groups=" ++ String.intercalate "," ((account.groups disk).map group)

end Account

/-- The program `id`. -/
def id : Utility := fun call =>
  let accepted : Accepted :=
    { letters := "agnruzGZ"
      names := [("context", 'Z'), ("group", 'g'), ("groups", 'G'), ("name", 'n'), ("real", 'r'),
        ("user", 'u'), ("zero", 'z')] }
  let unlabelled : Job := Job.fail call "--context (-Z) works only on an SELinux-enabled kernel"
  accepted.read call 1
    (fun arguments =>
      let only := ['u', 'g', 'G'].filter arguments.has
      let named := arguments.has 'n'
      let zero := arguments.has 'z'
      if arguments.has 'Z' then unlabelled
      else if only.length > 1 then Job.fail call "cannot print \"only\" of more than one choice"
      else if only.isEmpty ∧ (arguments.has 'r' ∨ named) then
        Job.fail call "cannot print only names or real IDs in default format"
      else if only.isEmpty ∧ zero then
        Job.fail call "option --zero not permitted in default format"
      else
        .disk fun disk _ =>
          let many := arguments.operands.length > 1
          let text (account : Account) : String :=
            let end' := if zero then "\x00" else "\n"
            match only with
            | ['u'] => (if named then account.name else toString account.number) ++ end'
            | ['g'] => Account.groupText disk named account.group ++ end'
            | ['G'] =>
              String.intercalate (if zero then "\x00" else " ")
                ((account.groups disk).map (Account.groupText disk named)) ++
                (if zero ∧ many then "\x00\x00" else end')
            | _ => account.describe disk ++ end'
          let rec tell (progress : Progress Unit) : List String → Job
            | [] => progress.finish call
            | word :: rest =>
              match Account.find? disk word with
              | some account => progress.put (text account) fun progress => tell progress rest
              | none =>
                { progress with failed := true }.warn call (call.quote word ++ ": no such user")
                  fun progress => tell progress rest
          (disk, if arguments.operands.isEmpty then Job.answer call (text Account.own)
            else tell { state := () } arguments.operands))
    (fun arguments job => if arguments.has 'Z' then unlabelled else job)

/-- The program `groups`. -/
def groups : Utility := fun call =>
  ({ letters := "" } : Accepted).read call 1 fun arguments =>
    .disk fun disk _ =>
      let text (account : Account) : String :=
        String.intercalate " " ((account.groups disk).map (Account.groupText disk true)) ++ "\n"
      let rec tell (progress : Progress Unit) : List String → Job
        | [] => progress.finish call
        | name :: rest =>
          match (Account.all disk).find? (·.name == name) with
          | some account =>
            progress.put (name ++ " : " ++ text account) fun progress => tell progress rest
          | none =>
            { progress with failed := true }.warn call (call.quote name ++ ": no such user")
              fun progress => tell progress rest
      (disk, if arguments.operands.isEmpty then Job.answer call (text Account.own)
        else tell { state := () } arguments.operands)

/-- A program that takes no operands. -/
def alone (failure : Nat) (job : Invocation → Job) : Utility := fun call =>
  ({ letters := "" } : Accepted).read call failure fun arguments =>
    match arguments.operands with
    | [] => job call
    | operand :: _ => Job.misuse call ("extra operand " ++ call.quote operand) failure

/-- The program `whoami`. -/
def whoami : Utility := alone 1 fun call => Job.answer call (Account.own.name ++ "\n")

/-- The program `logname`: nobody has logged in. -/
def logname : Utility := alone 1 fun call => Job.fail call "no login name"

end Utility

end ArtifactLens.Shell
