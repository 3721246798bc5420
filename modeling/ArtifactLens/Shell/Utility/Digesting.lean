import ArtifactLens.Shell.Digest.Blake2
import ArtifactLens.Shell.Digest.Checksum
import ArtifactLens.Shell.Utility.Amount
import ArtifactLens.Shell.Utility.Choice
import ArtifactLens.Shell.Utility.Filtering

/-!
# Telling texts apart

The programs that put out digests of files, and that check files against digests put out before:
`md5sum`, `sha1sum` and their like, `b2sum`, and `cksum`, which knows all of them; and `sum`.
-/

namespace ArtifactLens.Shell

namespace Utility

/-! ### Kinds of digests -/

/-- A kind of digest: its name, the octets that it has at most, and how it is made with so many. -/
structure DigestKind where
  title : String
  size : Nat
  /-- Shorter ones can be asked for. -/
  isVariable : Bool := false
  digest : (size : Nat) → ByteArray → List UInt8

namespace DigestKind

/-- The kind of digests that are made by blocks. -/
def ofBlocks {Word : Type} (title : String) (blocks : Digest.Blocks Word) : DigestKind where
  title
  size := blocks.size
  digest := fun _ data => blocks.digest data

/-- The kind that can be of any size. -/
def blake2b : DigestKind where
  title := "BLAKE2b"
  size := 64
  isVariable := true
  digest := Digest.blake2b

/-- The kinds by name. -/
def all : List (String × DigestKind) :=
  [("md5", ofBlocks "MD5" Digest.md5), ("sha1", ofBlocks "SHA1" Digest.sha1),
    ("sha224", ofBlocks "SHA224" Digest.sha224), ("sha256", ofBlocks "SHA256" Digest.sha256),
    ("sha384", ofBlocks "SHA384" Digest.sha384), ("sha512", ofBlocks "SHA512" Digest.sha512),
    ("blake2b", blake2b), ("sm3", ofBlocks "SM3" Digest.sm3)]

/-- The digits of the digest of a text. -/
def digits (kind : DigestKind) (size : Nat) (text : String) : String :=
  String.ofList ((kind.digest size (Digest.octets text)).flatMap fun octet =>
    [Digit.hexDigit (octet.toNat / 16), Digit.hexDigit (octet.toNat % 16)])

/-- The name of the kind, with the bits of a digest that is shorter than others. -/
def titleFor (kind : DigestKind) (size : Nat) : String :=
  if size < kind.size then kind.title ++ "-" ++ toString (8 * size) else kind.title

end DigestKind

/-- The checksums that are shown as numbers. -/
inductive SumKind where
  | turning
  | folded
  | cyclic
  deriving DecidableEq

/-- The checksum of a text and its length, with the name of its file if that is told. -/
def SumKind.line (kind : SumKind) (text : String) (name : Option String) : String :=
  let data := Digest.octets text
  let size := text.length
  let blocks (octets : Nat) : String := toString ((size + octets - 1) / octets)
  (match kind with
    | .turning => Digit.padLeft 5 '0' (toString (Digest.Checksum.turning data)) ++ " " ++
        right 5 (blocks 1024)
    | .folded => toString (Digest.Checksum.folded data) ++ " " ++ blocks 512
    | .cyclic => toString (Digest.Checksum.cyclic data) ++ " " ++ toString size) ++
    (match name with
      | some name => " " ++ name
      | none => "")

/-! ### Names in lines -/

/-- The name cannot stand in a line as it is. -/
def needsEscape (name : String) : Bool := name.any fun c => c == '\\' || c == '\n' || c == '\r'

/-- A name with backslashes in front of what cannot stand in a line. -/
def escapeName (name : String) : String :=
  String.ofList (name.toList.flatMap fun c =>
    if c = '\\' then ['\\', '\\'] else if c = '\n' then ['\\', 'n']
    else if c = '\r' then ['\\', 'r'] else [c])

/-- The name that stands in a line with backslashes. -/
def unescapeName? : List Char → Option (List Char)
  | [] => some []
  | '\\' :: 'n' :: rest => (unescapeName? rest).map ('\n' :: ·)
  | '\\' :: 'r' :: rest => (unescapeName? rest).map ('\r' :: ·)
  | '\\' :: '\\' :: rest => (unescapeName? rest).map ('\\' :: ·)
  | c :: rest => if c = '\\' ∨ c = '\x00' then none else (unescapeName? rest).map (c :: ·)

/-! ### Lines to check -/

/-- What a line says: which digest a file has. -/
structure DigestClaim where
  kind : DigestKind
  size : Nat
  digits : String
  name : String

namespace DigestClaim

/-- The character stands between words of a line. -/
def isGap (c : Char) : Bool := c == ' ' || c == '\t'

/-- The text consists of so many hexadecimal digits. -/
def areDigits (count : Nat) (text : List Char) : Bool :=
  text.length == count && text.all fun c => (Digit.hexValue? c).isSome

/-- Reads the name and the digits of a line that starts with the kind of its digest. -/
def readTagged? (kind : DigestKind) (size : Nat) (isEscaped : Bool) (text : List Char) :
    Option DigestClaim := do
  let after := text.reverse.takeWhile (· != ')')
  if after.length ≥ text.length then none
  else
    let spelled := text.take (text.length - after.length - 1)
    let name ← if isEscaped then unescapeName? spelled else some spelled
    match after.reverse.dropWhile isGap with
    | '=' :: rest =>
      let digits := rest.dropWhile isGap
      if areDigits (2 * size) digits then
        some { kind, size, digits := String.ofList digits, name := String.ofList name }
      else none
    | _ => none

/-- Reads a line that starts with the name of a kind. -/
def readTitle? (kind : DigestKind) (isEscaped : Bool) (rest : List Char) : Option DigestClaim := do
  let (size, rest) ←
    if !kind.isVariable then some (kind.size, rest)
    else
      match rest with
      | '-' :: more =>
        let digits := more.takeWhile Char.isDigit
        let bits := Digit.numeral digits
        if bits % 8 = 0 ∧ 0 < bits ∧ bits ≤ 8 * kind.size then
          some (bits / 8, more.drop digits.length)
        else none
      | ' ' :: _ | '(' :: _ => some (kind.size, rest)
      | _ => none
  let rest := match rest with
    | ' ' :: more => more
    | _ => rest
  match rest with
  | '(' :: more => readTagged? kind size isEscaped more
  | _ => none

/-- Reads a line that starts with the digits. Whether the name follows one blank only is settled by
the first such line: `bare` is that, if it is known. -/
def readDigits (kind : DigestKind) (isEscaped : Bool) (bare : Option Bool) (text : List Char) :
    Option DigestClaim × Option Bool :=
  let digits := if kind.isVariable then text.takeWhile fun c => (Digit.hexValue? c).isSome
    else text.take (2 * kind.size)
  let size := digits.length / 2
  let least := if kind.isVariable then 3 else 2 * kind.size + 2
  if text.length < least ∨ digits.length < 2 ∨ digits.length % 2 = 1 ∨ kind.size < size then
    (none, bare)
  else
    match text.drop digits.length with
    | [] => (none, bare)
    | c :: rest =>
      if !isGap c ∨ !areDigits digits.length digits then (none, bare)
      else
        let claim (name : List Char) : Option DigestClaim :=
          (if isEscaped then unescapeName? name else some name).map fun name =>
            { kind, size, digits := String.ofList digits, name := String.ofList name }
        let isBare := rest.length == 1 || !(rest.head? == some ' ' || rest.head? == some '*')
        if isBare then
          if bare = some false then (none, bare) else (claim rest, some true)
        else if bare = some true then (claim rest, bare)
        else (claim (rest.drop 1), some false)

/-- Reads a line. The kind of its digest is known, or else it is one of some that the line names. -/
def read (known : Option DigestKind) (bare : Option Bool) (line : List Char) :
    Option DigestClaim × Option Bool :=
  let text := line.dropWhile isGap
  let (isEscaped, text) := match text with
    | '\\' :: rest => (true, rest)
    | _ => (false, text)
  match known with
  | some kind =>
    let title := kind.title.toList
    if title.isPrefixOf text then (readTitle? kind isEscaped (text.drop title.length), bare)
    else readDigits kind isEscaped bare text
  | none =>
    let title := text.takeWhile fun c => !isGap c && c != '-' && c != '('
    let kind? := (DigestKind.all.map (·.2)).find? fun kind => kind.title.toList == title
    (kind?.bind fun kind => readTitle? kind isEscaped (text.drop title.length), bare)

end DigestClaim

/-! ### Checking -/

/-- How lines are checked. -/
structure DigestCheck where
  known : Option DigestKind
  /-- What is told: every file, the files that fail, or nothing. -/
  isQuiet : Bool := false
  isSilent : Bool := false
  /-- Lines that cannot be read are told one by one. -/
  warns : Bool := false
  /-- Such lines count as failures. -/
  isStrict : Bool := false
  sparesMissing : Bool := false

/-- How far checking has come. -/
structure DigestTally where
  /-- Whether names follow one blank only, if that is known. -/
  bare : Option Bool := none
  failed : Bool := false
  lacksInput : Bool := false
  -- What was found in the lines of one input.
  wrongLines : Nat := 0
  rightLines : Nat := 0
  unread : Nat := 0
  different : Nat := 0
  same : Nat := 0

namespace DigestCheck

/-- Reads a file; nothing stands for one that is missing and spared. -/
def readFile (call : Invocation) (sparesMissing : Bool) (name : String)
    (progress : Progress DigestTally)
    (next : Progress DigestTally → Except SystemFault (Option String) → Job) : Job :=
  Job.readInput name fun text =>
    match text with
    | .ok text => next progress (.ok (some text))
    | .error fault =>
      if sparesMissing ∧ fault = .missing then next progress (.ok none)
      else
        let lacksInput := name == "-" && fault == SystemFault.badDescriptor
        let tally := progress.state
        let state := { tally with lacksInput := tally.lacksInput || lacksInput }
        ({ progress with state }).warn call (call.quoteTitle name ++ ": " ++ fault.message)
          fun progress => next progress (.error fault)

/-- Checks a file against what a line says of it. -/
def checkClaim (call : Invocation) (check : DigestCheck) (claim : DigestClaim)
    (progress : Progress DigestTally) (next : Progress DigestTally → Job) : Job :=
  let name := if needsEscape claim.name then "\\" ++ escapeName claim.name else claim.name
  let told (tells : Bool) (verdict : String) : String :=
    if tells then name ++ ": " ++ verdict ++ "\n" else ""
  readFile call check.sparesMissing claim.name progress fun progress text =>
    let tally := progress.state
    let tell (tally : DigestTally) (line : String) : Job :=
      { progress with state := tally }.putLine line next
    match text with
    | .error _ =>
      tell { tally with unread := tally.unread + 1 } (told (!check.isSilent) "FAILED open or read")
    | .ok none => next progress
    | .ok (some text) =>
      if claim.kind.digits claim.size text == claim.digits.map Char.toLower then
        tell { tally with same := tally.same + 1 }
          (told (!check.isSilent && !check.isQuiet) "OK")
      else
        tell { tally with different := tally.different + 1 } (told (!check.isSilent) "FAILED")

/-- Checks the lines of an input, whose first one has a number. -/
def checkLines (call : Invocation) (check : DigestCheck) (title : String) (isInput : Bool)
    (next : Progress DigestTally → Job) : Nat → Progress DigestTally → List String → Job
  | _, progress, [] => next progress
  | number, progress, line :: rest =>
    let goOn (progress : Progress DigestTally) : Job :=
      checkLines call check title isInput next (number + 1) progress rest
    let text := match line.toList.reverse with
      | '\r' :: more => more.reverse
      | _ => line.toList
    if text.isEmpty ∨ text.head? = some '#' then goOn progress
    else
      let tally := progress.state
      let (claim?, bare) := DigestClaim.read check.known tally.bare text
      match claim?.filter fun claim => !(isInput && claim.name == "-") with
      | some claim =>
        let state := { tally with bare, rightLines := tally.rightLines + 1 }
        checkClaim call check claim { progress with state } goOn
      | none =>
        let state := { tally with bare, wrongLines := tally.wrongLines + 1 }
        let progress := { progress with state }
        if check.warns then
          progress.warn call (call.quoteTitle title ++ ": " ++ toString number ++
            ": improperly formatted " ++ ((check.known.map (·.title)).getD "CRC") ++
            " checksum line") goOn
        else goOn progress

/-- A warning about a number of things. -/
def warning (count : Nat) (one many : String) : List String :=
  if count = 0 then []
  else ["WARNING: " ++ toString count ++ " " ++ (if count = 1 then one else many)]

/-- Complains one after another. -/
def warnAll (call : Invocation) (next : Progress DigestTally → Job) :
    Progress DigestTally → List String → Job
  | progress, [] => next progress
  | progress, text :: rest => progress.warn call text fun progress =>
      warnAll call next progress rest

/-- Tells what was found in an input. -/
def conclude (call : Invocation) (check : DigestCheck) (title : String)
    (progress : Progress DigestTally) (next : Progress DigestTally → Job) : Job :=
  let tally := progress.state
  let fails := tally.rightLines = 0 ∨ tally.same = 0 ∨ tally.different > 0 ∨ tally.unread > 0 ∨
    (check.isStrict ∧ tally.wrongLines > 0)
  let state : DigestTally :=
    { bare := tally.bare, lacksInput := tally.lacksInput, failed := tally.failed || decide fails }
  let texts : List String :=
    if tally.rightLines = 0 then
      [call.quoteTitle title ++ ": no properly formatted checksum lines found"]
    else if check.isSilent then []
    else
      warning tally.wrongLines "line is improperly formatted" "lines are improperly formatted" ++
        warning tally.unread "listed file could not be read" "listed files could not be read" ++
        warning tally.different "computed checksum did NOT match"
          "computed checksums did NOT match" ++
        (if check.sparesMissing ∧ tally.same = 0 then
          [call.quoteTitle title ++ ": no file was verified"] else [])
  warnAll call next { progress with state } texts

/-- Checks what is listed in an input. -/
def checkInput (call : Invocation) (check : DigestCheck) (name : String)
    (progress : Progress DigestTally) (next : Progress DigestTally → Job) : Job :=
  let title := if name = "-" then "standard input" else name
  let refuse (text : String) (lacksInput : Bool := false) : Job :=
    let tally := progress.state
    let state := { tally with failed := true, lacksInput := tally.lacksInput || lacksInput }
    ({ progress with state }).warn call (call.quoteTitle title ++ ": " ++ text) next
  let take (text : Except SystemFault String) : Job :=
    match text with
    | .error fault => refuse "read error" (name == "-" && fault == SystemFault.badDescriptor)
    | .ok text =>
      checkLines call check title (name == "-") (fun progress =>
        conclude call check title progress next) 1 progress (linesOf text)
  if name = "-" then Job.slurp 0 take
  else
    .open name { reads := true } fun opened =>
      match opened with
      | .error fault => refuse fault.message
      | .ok descriptor => Job.slurp descriptor fun text => .close descriptor (take text)

end DigestCheck

/-! ### Programs -/

/-- Goes through inputs and ends. -/
def throughInputs (call : Invocation)
    (step : String → Progress DigestTally → (Progress DigestTally → Job) → Job) :
    Progress DigestTally → List String → Job
  | progress, [] =>
    if progress.state.lacksInput then
      progress.fail call ("standard input: " ++ SystemFault.badDescriptor.message)
    else progress.exit call (if progress.state.failed then 1 else 0)
  | progress, name :: rest => step name progress fun progress =>
      throughInputs call step progress rest

/-- Puts out a line for each input. -/
def putLines (call : Invocation) (line : (name text : String) → String) (names : List String) : Job :=
  throughInputs call (fun name progress next =>
    DigestCheck.readFile call false name progress fun progress text =>
      match text with
      | .ok text => progress.putLine (line name (text.getD "")) next
      | .error _ => next { progress with state := { progress.state with failed := true } })
    { state := {} } (if names.isEmpty then ["-"] else names)

/-- The options that digests share, with names alone for those that have no letter. -/
def digestNames : List (String × Char) :=
  [("check", 'c'), ("ignore-missing", 'ι'), ("quiet", 'κ'), ("status", 'σ'), ("warn", 'w'),
    ("strict", 'ρ'), ("tag", 'τ'), ("zero", 'z')]

/-- What is wrong with options that do not go together. -/
def digestMisuse? (arguments : Arguments) (textTagged : Bool) : Option String :=
  let checks := arguments.has 'c'
  -- Each of these makes up for the others.
  let manner := (arguments.last? ['κ', 'σ', 'w']).map (·.1)
  let only (option : String) : String :=
    "the --" ++ option ++ " option is meaningful only when verifying checksums"
  if textTagged then some "--tag does not support --text mode"
  else if checks ∧ arguments.has 'z' then
    some "the --zero option is not supported when verifying checksums"
  else if checks ∧ arguments.has 'τ' then
    some "the --tag option is meaningless when verifying checksums"
  else if checks ∧ (arguments.has 'b' ∨ arguments.has 't') then
    some "the --binary and --text options are meaningless when verifying checksums"
  else if checks then none
  else if arguments.has 'ι' then some (only "ignore-missing")
  else if manner = some 'σ' then some (only "status")
  else if manner = some 'w' then some (only "warn")
  else if manner = some 'κ' then some (only "quiet")
  else if arguments.has 'ρ' then some (only "strict")
  else none

/-- How lines are checked by options. -/
def checkOf (known : Option DigestKind) (arguments : Arguments) : DigestCheck :=
  let manner := (arguments.last? ['κ', 'σ', 'w']).map (·.1)
  { known, isQuiet := manner == some 'κ', isSilent := manner == some 'σ'
    warns := manner == some 'w', isStrict := arguments.has 'ρ', sparesMissing := arguments.has 'ι' }

/-- The line of a digest. -/
def digestLine (kind : DigestKind) (size : Nat) (tagged : Bool) (mark : Char) (ending : Char)
    (name text : String) : String :=
  let escapes := needsEscape name && ending == '\n'
  let spelled := if escapes then escapeName name else name
  let digits := kind.digits size text
  (if escapes then "\\" else "") ++
    (if tagged then kind.titleFor size ++ " (" ++ spelled ++ ") = " ++ digits
      else digits ++ String.ofList [' ', mark] ++ spelled).push ending

/-- Reads how many bits a digest is to have, or complains. -/
def takeBits (call : Invocation) (arguments : Arguments) (next : Nat → Job) : Job :=
  let bits (text : String) : Except String Nat :=
    match Amount.within "" false 0 Amount.greatest text with
    | .error fault => .error (Amount.complaint call "invalid length" text fault)
    | .ok bits =>
      if bits % 8 = 0 then .ok bits.toNat
      else .error ("invalid length: " ++ call.quote text ++ "\n" ++ call.name ++
        ": length is not a multiple of 8")
  match (arguments.values 'l').mapM bits with
  | .error complaint => Job.fail call complaint
  | .ok all => next (all.getLastD 0)

/-- Refuses more bits than a kind of digest has. -/
def refuseBits (call : Invocation) (kind : DigestKind) (arguments : Arguments) : Job :=
  Job.warn call ("invalid length: " ++ call.quote ((arguments.value? 'l').getD "")) <|
    Job.fail call ("maximum digest length for " ++ call.quote kind.title ++ " is " ++
      toString (8 * kind.size) ++ " bits")

/-- The program for one kind of digest. -/
def digestAs (kind : DigestKind) : Utility := fun call =>
  let own := [("binary", 'b'), ("text", 't')] ++ digestNames
  let accepted : Accepted :=
    { letters := "bctwzικσρτ" ++ (if kind.isVariable then "l:" else "")
      names := if kind.isVariable then own ++ [("length", 'l')] else own }
  accepted.read call 1 (fun arguments =>
    takeBits call arguments fun bits =>
      if bits > 8 * kind.size then refuseBits call kind arguments
      else
        let size := if bits = 0 then kind.size else bits / 8
        let mode := (arguments.last? ['b', 't', 'τ']).map (·.1)
        let tagged := arguments.has 'τ'
        match digestMisuse? arguments (tagged && mode == some 't') with
        | some text => Job.misuse call text
        | none =>
          let names := if arguments.operands.isEmpty then ["-"] else arguments.operands
          if arguments.has 'c' then
            throughInputs call (DigestCheck.checkInput call (checkOf (some kind) arguments))
              { state := {} } names
          else
            let mark := if mode = some 'b' then '*' else ' '
            let ending := if arguments.has 'z' then '\x00' else '\n'
            putLines call (digestLine kind size tagged mark ending) names)
    fun arguments job => takeBits call arguments fun _ => job

/-- What `cksum` puts out. -/
inductive ChecksumKind where
  | sum (kind : SumKind)
  | digest (name : String)
  deriving DecidableEq

/-- The kinds of checksums by name. -/
def checksumChoice : Choice ChecksumKind where
  option := "--algorithm"
  isExact := true
  words := [("bsd", .sum .turning), ("sysv", .sum .folded), ("crc", .sum .cyclic)] ++
    DigestKind.all.map fun (name, _) => (name, .digest name)

/-- The program `cksum`. -/
def cksum : Utility := fun call =>
  let accepted : Accepted :=
    { letters := "a:bctwzl:ικσρτυδ"
      names := [("algorithm", 'a'), ("debug", 'δ'), ("untagged", 'υ'), ("length", 'l')] ++
        digestNames }
  let choose (arguments : Arguments) (next : Option ChecksumKind → Job) : Job :=
    let kinds := (arguments.values 'a').mapM fun word =>
      match checksumChoice.meaning word with
      | .ok kind => Except.ok kind
      | .error fault => .error (checksumChoice.complaint call word fault)
    match kinds with
    | .error complaint => Job.misuse call complaint
    | .ok kinds => takeBits call arguments fun _ => next kinds.getLast?
  accepted.read call 1 (fun arguments =>
    choose arguments fun kind? =>
      takeBits call arguments fun bits =>
        let kind := match kind? with
          | some (.digest name) => (DigestKind.all.find? (·.1 == name)).map (·.2)
          | _ => none
        let sum : SumKind := match kind? with
          | some (.sum sum) => sum
          | _ => .cyclic
        let varies := (kind.map (·.isVariable)).getD false
        let tagged := (arguments.last? ['τ', 'υ']).map (·.1) != some 'υ'
        let mode := (arguments.last? ['b', 't', 'τ']).map (·.1)
        let sums : Bool := match kind? with
          | some (.sum _) => true
          | _ => false
        let names := if arguments.operands.isEmpty then ["-"] else arguments.operands
        if bits ≠ 0 ∧ !varies then
          Job.fail call "--length is only supported with --algorithm=blake2b"
        else if bits > 512 then refuseBits call DigestKind.blake2b arguments
        else if arguments.has 'c' ∧ sums then
          Job.fail call "--check is not supported with --algorithm=\x7bbsd,sysv,crc\x7d"
        else
          match digestMisuse? arguments (tagged && mode == some 't') with
          | some text => Job.misuse call text
          | none =>
            if arguments.has 'c' then
              throughInputs call (DigestCheck.checkInput call (checkOf kind arguments))
                { state := {} } names
            else
              let ending := if arguments.has 'z' then '\x00' else '\n'
              match kind with
              | some kind =>
                let mark := if mode = some 'b' then '*' else ' '
                let size := if bits = 0 then kind.size else bits / 8
                putLines call (digestLine kind size tagged mark ending) names
              | none =>
                let named (name : String) : Option String :=
                  if arguments.operands.isEmpty then none else some name
                putLines call (fun name text => (sum.line text (named name)).push ending) names)
    fun arguments job => choose arguments fun _ => job

/-- The program `sum`. -/
def sum : Utility := fun call =>
  ({ letters := "rs", names := [("sysv", 's')] } : Accepted).read call 1 fun arguments =>
    let kind : SumKind := match arguments.last? ['r', 's'] with
      | some ('s', _) => .folded
      | _ => .turning
    let names := if arguments.operands.isEmpty then ["-"] else arguments.operands
    putLines call (fun name text =>
      kind.line text (if arguments.operands.isEmpty then none else some name) ++ "\n") names

end Utility

end ArtifactLens.Shell
