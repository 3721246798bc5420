import ArtifactLens.Shell.Utility.Finding.Format

/-!
# Expressions of a search

The words of a search are read one by one into tokens, and the tokens into one term. Negation binds
closest, then joining, which needs no word, then choice, and the comma last. An expression that
does not act puts out the paths of all that it holds of.
-/

namespace ArtifactLens.Shell

namespace Utility

namespace Finding

/-- How closely words of an expression bind. -/
inductive Binding where
  | comma
  | choice
  | junction
  deriving DecidableEq, Repr

/-- The rank of a binding; closer ones are higher. -/
def Binding.rank : Binding → Nat
  | .comma => 1
  | .choice => 2
  | .junction => 3

/-- A token of an expression; some were not written by anyone. -/
inductive Token where
  | term (term : FindTerm)
  | negation (word : String)
  | binary (binding : Binding) (word : String)
  | opening (isWritten : Bool)
  | closing (isWritten : Bool)

/-- Why an expression is refused; a hint at the usage may follow. -/
structure Refusal where
  text : String
  hasHint : Bool := false

/-- What is known while the words are read. -/
structure Words where
  call : Invocation
  disk : Disk
  stand : Standpoint
  rest : List String
  orders : Orders := {}
  /-- The tokens, the newest first. -/
  tokens : List Token := []
  warnings : List String := []
  acts : Bool := false
  deletes : Bool := false
  prunes : Bool := false
  depthAsked : Bool := false
  /-- The moment from which ages are counted, less a day. -/
  origin : Int
  regexStyle : Char := 'm'
  /-- Files that are written. -/
  targets : List String := []

/-- Reading words. -/
abbrev ReadWords := StateT Words (Except Refusal)

/-- Refuses the expression. -/
def refuse {α : Type} (text : String) : ReadWords α := throw { text }

/-- Adds a token; a term or what opens one is joined to a term before it. -/
def addToken (token : Token) : ReadWords Unit := do
  let words ← get
  let begins : Bool := match token with
    | .term _ | .negation _ | .opening _ => true
    | _ => false
  let follows : Bool := match words.tokens with
    | .term _ :: _ | .closing _ :: _ => true
    | _ => false
  let tokens := if begins ∧ follows then .binary .junction "-a" :: words.tokens else words.tokens
  set { words with tokens := token :: tokens }

/-- Adds a condition. -/
def addCondition (condition : Condition) : ReadWords Unit := addToken (.term (.condition condition))

/-- Adds an act. -/
def addAct (act : Act) : ReadWords Unit := do
  modify fun words => { words with acts := true }
  addToken (.term (.act act))

/-- Takes the word after another. -/
def argumentOf (name : String) : ReadWords String := do
  let words ← get
  match words.rest with
  | [] => refuse ("missing argument to \x60" ++ name ++ "'")
  | word :: rest =>
    set { words with rest }
    return word

/-- Refuses the word after another. -/
def refuseArgument {α : Type} (name word : String) : ReadWords α :=
  refuse ("invalid argument \x60" ++ word ++ "' to \x60" ++ name ++ "'")

/-- Takes a sign off a text. -/
def relationOf (text : List Char) : Ordering × List Char :=
  match text with
  | '+' :: rest => (.gt, rest)
  | '-' :: rest => (.lt, rest)
  | rest => (.eq, rest)

/-- The amount that a text tells. -/
def amount? (text : String) : Option Amount :=
  let (relation, digits) := relationOf text.toList
  if digits.isEmpty ∨ !digits.all Char.isDigit then none else some ⟨relation, Digit.numeral digits⟩

/-- Takes an amount. -/
def takeAmount (name : String) : ReadWords Amount := do
  if (← get).rest.isEmpty then refuseArgument name name
  let word ← argumentOf name
  match amount? word with
  | some amount => return amount
  | none => refuseArgument name word

/-- Takes a size. -/
def takeSize (name : String) : ReadWords Condition := do
  let word ← argumentOf name
  let unit? (letter : Char) : Option Nat := match letter with
    | 'b' => some 512
    | 'c' => some 1
    | 'w' => some 2
    | 'k' => some 1024
    | 'M' => some (1024 ^ 2)
    | 'G' => some (1024 ^ 3)
    | _ => none
  match word.toList.getLast? with
  | none => refuse "invalid null argument to -size"
  | some letter =>
    let (body, unit) ← if letter.isDigit then pure (word, 512)
      else
        match unit? letter with
        | some unit => pure ((word.dropEnd 1).toString, unit)
        | none => refuse ("invalid -size type \x60" ++ String.singleton letter ++ "'")
    match amount? body with
    | some amount => return .size amount unit
    | none => refuse ("Invalid argument \x60" ++ word ++ "' to -size")

/-- Takes the letters of kinds of files. -/
def takeKinds (name : String) : ReadWords (List Char) := do
  let word ← argumentOf name
  let rec go (done : List Char) : List Char → ReadWords (List Char)
    | [] => return done.reverse
    | letter :: rest => do
      if !"bcdpflsD".contains letter then
        refuse ("Unknown argument to " ++ name ++ ": " ++ String.singleton letter)
      if done.contains letter then
        refuse ("Duplicate file type '" ++ String.singleton letter ++ "' in the argument list to " ++
          name ++ ".")
      match rest with
      | [] => return (letter :: done).reverse
      | [','] =>
        refuse ("Last file type in list argument to " ++ name ++
          " is missing, i.e., list is ending on: ','")
      | ',' :: more => go (letter :: done) more
      | _ =>
        refuse ("Must separate multiple arguments to " ++ name ++ " using: ','")
  if word = "" then
    refuse ("Arguments to " ++ name ++ " should contain at least one letter")
  else go [] word.toList

/-- Takes a file that is there. -/
def takeFile (name : String) : ReadWords (FileNumber × DiskFile) := do
  let word ← argumentOf name
  let words ← get
  match words.disk.inspect words.stand.directory word with
  | .ok found => return found
  | .error fault => refuse (words.call.quote word ++ ": " ++ fault.message)

/-- Takes a moment after which files are to be found. -/
def takeNewer (name : String) : ReadWords Condition := do
  let letters := (name.drop 6).toString.toList
  let clock? (letter : Char) : Option Clock := match letter with
    | 'a' => some .access
    | 'c' => some .status
    | 'm' => some .change
    | _ => none
  if (← get).rest.isEmpty then
    refuse ("The " ++ (← get).call.quote name ++ " test needs an argument")
  match letters with
  | [x, 't'] =>
    match clock? x with
    | none => refuse ("invalid predicate \x60" ++ name ++ "'")
    | some clock =>
      let word ← argumentOf name
      let words ← get
      match Calendar.read? (zoneOf words.call) words.stand.moment word with
      | some moment => return .newer clock moment
      | none =>
        refuse ("I cannot figure out how to interpret " ++ words.call.quote word ++
          " as a date or time")
  | [x, y] =>
    match clock? x, clock? y with
    | some clock, some other =>
      let (_, file) ← takeFile name
      return .newer clock (other.of file)
    | _, _ => refuse ("invalid predicate \x60" ++ name ++ "'")
  | _ => refuse ("invalid predicate \x60" ++ name ++ "'")

/-- Takes an age in units. -/
def takeAge (name : String) (clock : Clock) (inDays : Bool) : ReadWords Condition := do
  let word ← argumentOf name
  let (relation, text) := relationOf word.toList
  let whole := text.takeWhile Char.isDigit
  let rest := text.drop whole.length
  let fraction := match rest with
    | '.' :: more => more.takeWhile Char.isDigit
    | _ => []
  let seen := whole.length + (if rest.isEmpty then 0 else fraction.length + 1)
  if (whole ++ fraction).isEmpty ∨ seen ≠ text.length then refuseArgument name word
  let words ← get
  let day : Int := 86400 * 10 ^ 9
  let unit : Nat := (if inDays then 86400 else 60) * 10 ^ 9
  let span := Digit.numeral (whole ++ fraction) * unit / 10 ^ fraction.length
  let start := if inDays then
      (if relation = .lt then words.origin + day - 10 ^ 9 else words.origin)
    else words.origin + day
  return .age clock relation (start - span) unit

/-- Takes a mode. -/
def takePermission (name : String) : ReadWords Condition := do
  let word ← argumentOf name
  let (manner, text) := match word.toList with
    | '-' :: rest => ('-', String.ofList rest)
    | '/' :: rest => ('/', String.ofList rest)
    | _ => ('=', word)
  match ModeChange.parse? text with
  | none => refuse ("invalid mode " ++ (← get).call.quote word)
  | some changes =>
    let bits := ModeChange.apply false 0 0 changes
    let directoryBits := ModeChange.apply true 0 0 changes
    if manner = '/' ∧ bits = 0 ∧ directoryBits = 0 then
      let warning := "you have specified a mode pattern " ++ word ++
        " (which is equivalent to /000). The meaning of -perm /000 has now been changed to be " ++
        "consistent with -perm -000; that is, while it used to match no files, it now matches all " ++
        "files."
      modify fun words => { words with warnings := warning :: words.warnings }
      return .permission '-' 0 0
    else return .permission manner bits directoryBits

/-- Takes the name or the number of an account or a group. -/
def takeAccount (name kind : String) : ReadWords Nat := do
  let word ← argumentOf name
  match Disk.accounts.find? (·.1 == word) with
  | some (_, number, _, _) => return number
  | none =>
    if word ≠ "" ∧ word.toList.all Char.isDigit then return Digit.numeral word.toList
    else if word = "" then refuse ("The argument to " ++ name ++ " should not be empty")
    else refuse ((← get).call.quote word ++ " is not the name of " ++ kind)

/-- Takes a format. -/
def takeFormat (name : String) : ReadWords (List FormatPiece) := do
  let word ← argumentOf name
  let (pieces, flaws) := readFormat [] [] (word.length + 1) word.toList
  for flaw in flaws do
    match flaw with
    | .warning text => modify fun words => { words with warnings := text :: words.warnings }
    | .refusal text => refuse text
  return pieces

/-- Takes the name of a file that is to be written. -/
def takeTarget (name : String) : ReadWords (Option String) := do
  let word ← argumentOf name
  modify fun words => { words with targets := words.targets ++ [word] }
  return some word

/-- Takes a regular expression. -/
def takeRegex (name : String) : ReadWords Regex := do
  let word ← argumentOf name
  let kind := (← get).regexStyle
  let style : Regex.Style := if kind = 'm' then .plain else if kind = 'E' then .extended else .basic
  match Regex.parse style (word.toList.map Char.toNat) with
  | .ok { regex, .. } => return regex
  | .error fault =>
    refuse ("failed to compile regular expression '" ++ word ++ "': " ++ fault.message)

/-- The names of the styles of regular expressions. -/
def regexStyles : List (String × Char) :=
  [("findutils-default", 'm'), ("ed", 'G'), ("emacs", 'm'), ("gnu-awk", 'E'), ("grep", 'G'),
    ("posix-awk", 'E'), ("awk", 'E'), ("posix-basic", 'G'), ("posix-egrep", 'E'), ("egrep", 'E'),
    ("posix-extended", 'E'), ("posix-minimal-basic", 'G'), ("sed", 'G')]

/-- The words of a command up to its end, what is left, and whether it is run for many at once. -/
def commandWords (allowsPlus : Bool) (done : List String) :
    List String → Option (List String × List String × Bool)
  | [] => none
  | ";" :: rest => some (done.reverse, rest, false)
  | word :: rest =>
    let isBraced := done.head?.any fun word => (word.splitOn "\x7b\x7d").length > 1
    if word = "+" ∧ allowsPlus ∧ isBraced then some (done.reverse, rest, true)
    else commandWords allowsPlus (word :: done) rest

/-- Takes a command. -/
def takeCommand (name : String) (inPlace asks : Bool) : ReadWords Calling := do
  let words ← get
  match commandWords (!asks) [] words.rest with
  | none => refuse ("missing argument to \x60" ++ name ++ "'")
  | some ([], _, _) => refuseArgument name ";"
  | some (command, rest, together) =>
    set { words with rest }
    let braced := command.filter fun word => (word.splitOn "\x7b\x7d").length > 1
    if together then
      if braced.length > 1 then
        refuse ("Only one instance of \x7b\x7d is supported with " ++ name ++ " ... +")
      if let some word := braced.find? (· != "\x7b\x7d") then
        let quote := (← get).call.quote
        refuse ("In " ++ quote (name ++ " ... \x7b\x7d +") ++ " the " ++ quote "\x7b\x7d" ++
          " must appear by itself, but you specified " ++ quote word)
    return { words := if together then command.dropLast else command, together, inPlace, asks
             index := words.rest.length }

/-- Takes a depth. -/
def takeDepth (name : String) : ReadWords Nat := do
  let word ← argumentOf name
  if word ≠ "" ∧ word.toList.all Char.isDigit then return Digit.numeral word.toList
  else
    refuse ("Expected a positive decimal integer argument to " ++ name ++ ", but got " ++
      (← get).call.quote word)

/-- Changes the orders. -/
def order (f : Orders → Orders) : ReadWords Unit := do
  modify fun words => { words with orders := f words.orders }
  addCondition (.truth true)

/-- Reads one word with its arguments. -/
def readWord (name : String) : ReadWords Unit := do
  match name with
  | "(" => addToken (.opening true)
  | ")" => addToken (.closing true)
  | "!" | "-not" => addToken (.negation name)
  | "-a" | "-and" => addToken (.binary .junction name)
  | "-o" | "-or" => addToken (.binary .choice name)
  | "," => addToken (.binary .comma name)
  | "-name" => addCondition (.named (← argumentOf name) false)
  | "-iname" => addCondition (.named (← argumentOf name) true)
  | "-path" | "-wholename" | "-ipath" | "-iwholename" =>
    let pattern ← argumentOf name
    if pattern.endsWith "/" ∧ pattern ≠ "/" then
      modify fun words => { words with
        warnings := (name ++ " " ++ pattern ++
          " will not match anything because it ends with /.") :: words.warnings }
    addCondition (.pathLike pattern (name.startsWith "-i"))
  | "-lname" | "-ilname" => addCondition (.linkLike (← argumentOf name) (name == "-ilname"))
  | "-regex" | "-iregex" => addCondition (.matching (← takeRegex name) (name == "-iregex"))
  | "-regextype" =>
    let word ← argumentOf name
    match regexStyles.find? (·.1 == word) with
    | some (_, letter) =>
      modify fun words => { words with regexStyle := letter }
      addCondition (.truth true)
    | none =>
      let quote := (← get).call.quote
      refuse ("Unknown regular expression type " ++ quote word ++ "; valid types are " ++
        String.intercalate ", " (regexStyles.map fun entry => quote entry.1) ++ ".")
  | "-type" | "-xtype" => addCondition (.kind (← takeKinds name) (name == "-xtype"))
  | "-empty" => addCondition .empty
  | "-size" => addCondition (← takeSize name)
  | "-links" => addCondition (.links (← takeAmount name))
  | "-inum" => addCondition (.number (← takeAmount name))
  | "-uid" => addCondition (.owner (← takeAmount name))
  | "-gid" => addCondition (.group (← takeAmount name))
  | "-user" => addCondition (.owner ⟨.eq, ← takeAccount name "a known user"⟩)
  | "-group" => addCondition (.group ⟨.eq, ← takeAccount name "an existing group"⟩)
  | "-nouser" | "-nogroup" => addCondition (.nameless (name == "-nogroup"))
  | "-samefile" => addCondition (.same (← takeFile name).1)
  | "-perm" => addCondition (← takePermission name)
  | "-newer" => addCondition (.newer .change (← takeFile name).2.modified)
  | "-anewer" => addCondition (.newer .access (← takeFile name).2.modified)
  | "-cnewer" => addCondition (.newer .status (← takeFile name).2.modified)
  | "-mtime" | "-mmin" => addCondition (← takeAge name .change (name == "-mtime"))
  | "-atime" | "-amin" => addCondition (← takeAge name .access (name == "-atime"))
  | "-ctime" | "-cmin" => addCondition (← takeAge name .status (name == "-ctime"))
  | "-daystart" =>
    modify fun words =>
      let day : Int := 86400 * 10 ^ 9
      { words with origin := words.stand.moment / day * day }
    addCondition (.truth true)
  | "-executable" => addCondition .executable
  | "-readable" | "-writable" => addCondition .readable
  | "-true" => addCondition (.truth true)
  | "-false" => addCondition (.truth false)
  | "-fstype" | "-used" | "-context" =>
    let _ ← argumentOf name
    addCondition (.truth false)
  | "-print" => addAct (.print '\n' none)
  | "-print0" => addAct (.print '\x00' none)
  | "-fprint" => addAct (.print '\n' (← takeTarget name))
  | "-fprint0" => addAct (.print '\x00' (← takeTarget name))
  | "-printf" => addAct (.format (← takeFormat name) none)
  | "-fprintf" =>
    let target ← takeTarget name
    addAct (.format (← takeFormat name) target)
  | "-ls" => addAct (.list none)
  | "-fls" => addAct (.list (← takeTarget name))
  | "-delete" =>
    modify fun words => { words with
      deletes := true, orders := { words.orders with depthFirst := true } }
    addAct .delete
  | "-prune" =>
    modify fun words => { words with prunes := true }
    addToken (.term (.act .prune))
  | "-quit" => addToken (.term (.act .quit))
  | "-exec" => addAct (.call (← takeCommand name false false))
  | "-execdir" => addAct (.call (← takeCommand name true false))
  | "-ok" => addAct (.call (← takeCommand name false true))
  | "-okdir" => addAct (.call (← takeCommand name true true))
  | "-depth" | "-d" =>
    modify fun words => { words with depthAsked := true }
    order fun orders => { orders with depthFirst := true }
  | "-maxdepth" =>
    let depth ← takeDepth name
    order fun orders => { orders with most := some depth }
  | "-mindepth" =>
    let depth ← takeDepth name
    order fun orders => { orders with least := depth }
  | "-follow" => order fun orders => { orders with follows := true }
  | "-xdev" | "-mount" | "-noleaf" | "-warn" | "-nowarn" | "-ignore_readdir_race"
  | "-noignore_readdir_race" => addCondition (.truth true)
  | other =>
    if other.startsWith "-newer" ∧ other.length = 8 then addCondition (← takeNewer other)
    else refuse ("unknown predicate \x60" ++ other ++ "'")

/-- The word is one of an expression; a starting point cannot look like the words that begin one. -/
def isExpressionWord (isFirst : Bool) (word : String) : Bool :=
  match word.toList with
  | '-' :: _ :: _ => true
  | ['!'] | ['('] => true
  | [')'] | [','] => !isFirst
  | _ => false

/-- Reads all words. -/
def readWords : (measure : Nat) → ReadWords Unit
  | 0 => return
  | measure + 1 => do
    let words ← get
    match words.rest with
    | [] => return
    | word :: rest =>
      if !isExpressionWord false word then
        refuse ("paths must precede expression: \x60" ++ word ++ "'")
      set { words with rest }
      readWord word
      readWords measure

/-! ### From tokens to a term -/

/-- Reading tokens. -/
abbrev ReadTokens := StateT (List Token) (Except Refusal)

/-- Joins two terms. -/
def Binding.joined (binding : Binding) (first second : FindTerm) : FindTerm :=
  match binding with
  | .junction => .both first second
  | .choice => .either first second
  | .comma => .next first second

mutual

/-- Reads a term whose joints bind closer than a rank; `before` is the token before it. -/
def readTerm (rank : Nat) (before : Option Token) : (measure : Nat) → ReadTokens FindTerm
  | 0 => throw { text := "invalid expression" }
  | measure + 1 => do
    match ← get with
    | [] => throw { text := "invalid expression" }
    | token :: rest =>
      match token with
      | .binary _ word =>
        throw { text := "invalid expression; you have used a binary operator '" ++ word ++
          "' with nothing before it." }
      | .closing isWritten =>
        let word? : Option String := match before with
          | some (.negation word) | some (.binary _ word) => some word
          | _ => none
        match word?, isWritten with
        | some word, false => throw { text := "expected an expression after '" ++ word ++ "'" }
        | some word, true =>
          throw { text := "expected an expression between '" ++ word ++ "' and ')'" }
        | none, _ => throw { text := "invalid expression; you have too many ')'" }
      | .term term =>
        set rest
        readJoints rank term measure
      | .negation _ =>
        set rest
        let inner ← readTerm 4 (some token) measure
        readJoints rank (.negation inner) measure
      | .opening isWritten =>
        match rest with
        | [] | .closing false :: _ =>
          throw { text := "invalid expression; expected to find a ')' but didn't see one. " ++
            "Perhaps you need an extra predicate after '('" }
        | .closing true :: _ =>
          throw { text := if isWritten then
              "invalid expression; empty parentheses are not allowed."
            else "invalid expression; you have too many ')'" }
        | _ =>
          set rest
          let inner ← readTerm 0 (some token) measure
          match ← get with
          | .closing _ :: rest =>
            set rest
            readJoints rank inner measure
          | _ =>
            throw { text := "invalid expression; I was expecting to find a ')' somewhere but did " ++
              "not see one." }

/-- Reads what is joined to a term. -/
def readJoints (rank : Nat) (done : FindTerm) : (measure : Nat) → ReadTokens FindTerm
  | 0 => throw { text := "invalid expression" }
  | measure + 1 => do
    match ← get with
    | .binary binding word :: rest =>
      if binding.rank > rank then
        set rest
        let next ← readTerm binding.rank (some (.binary binding word)) measure
        readJoints rank (binding.joined done next) measure
      else return done
    | _ => return done

end

/-- Reads an expression: its term, and what was learned from the words. -/
def readExpression (start : Words) : Except Refusal (FindTerm × Words) := do
  let (_, words) ← (readWords (start.rest.length + 1)).run start
  if words.deletes ∧ words.prunes ∧ !words.depthAsked then
    throw { text := "The -delete action automatically turns on -depth, but -prune does nothing " ++
      "when -depth is in effect.  If you want to carry on anyway, just explicitly use the -depth " ++
      "option." }
  let print : Token := .term (.act (.print '\n' none))
  let tokens := if words.tokens.isEmpty then [print]
    else if words.acts then words.tokens.reverse
    else .opening false :: words.tokens.reverse ++ [.closing false, .binary .junction "-a", print]
  let (term, rest) ← (readTerm 0 none (8 * tokens.length + 8)).run tokens
  match rest with
  | [] => return (term, words)
  | .closing _ :: _ => throw { text := "you have too many ')'" }
  | _ => throw { text := "unexpected extra predicate" }

end Finding

end Utility

end ArtifactLens.Shell
