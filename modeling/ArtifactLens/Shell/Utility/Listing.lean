import ArtifactLens.Shell.Pattern
import ArtifactLens.Shell.Utility.Status
import ArtifactLens.Shell.Utility.Version

/-!
# Listing directories

The program `ls`: the names in directories, one to a line, in columns, or with all that is known of
the files, in an order of choice.
-/

namespace ArtifactLens.Shell

namespace Utility

/-- How names are laid out. -/
inductive Layout where
  | lines
  | long
  | columns
  | across
  | commas
  deriving DecidableEq

/-- By what names are ordered. -/
inductive ListOrder where
  | name
  | time
  | size
  | suffix
  | version
  | width
  /-- As the directory has them. -/
  | none
  deriving DecidableEq

/-- The marks after names. -/
inductive Marking where
  | none
  | directories
  /-- Kinds of files but for programs. -/
  | kinds
  | all
  deriving DecidableEq

/-- How names are spelled. -/
inductive Spelling where
  | plain
  | escaped
  | quoted
  /-- What cannot be shown becomes a question mark. -/
  | questioned
  /-- As a shell would need them. -/
  | shell
  | shellAlways
  deriving DecidableEq

/-- How directories are listed. -/
structure ListingManner where
  layout : Layout := .lines
  order : ListOrder := .name
  reversed : Bool := false
  /-- Names that begin with a dot are listed. -/
  hidden : Bool := false
  /-- So are a directory itself and the one above. -/
  dots : Bool := false
  /-- Names that are not listed, as patterns. -/
  ignored : List String := []
  marking : Marking := .none
  spelling : Spelling := .plain
  recursive : Bool := false
  /-- Directories are listed as files. -/
  asFiles : Bool := false
  follows : Bool := false
  showsNumbers : Bool := false
  showsBlocks : Bool := false
  human : Bool := false
  numericOwners : Bool := false
  showsOwner : Bool := true
  showsGroup : Bool := true
  /-- The moment that is shown: of change, of access, or of change of status. -/
  moment : Char := 'm'
  /-- The formats of moments that are long past, and of recent ones. -/
  formats : String × String := ("%b %e  %Y", "%b %e %H:%M")
  directoriesFirst : Bool := false
  width : Nat := 80
  ending : String := "\n"

/-- A name that is listed, with its file. -/
structure Listed where
  name : String
  number : FileNumber
  file : DiskFile

/-! ### Names and marks -/

/-- The name as it is spelled. -/
def spelledName (call : Invocation) (spelling : Spelling) (name : String) : String :=
  let units := call.glyphs name.toList
  let escaped (quotes : Bool) : String := String.ofList (units.flatMap fun unit =>
    let octets := call.ofGlyphs [unit]
    if unit = '\\'.toNat ∨ (quotes ∧ unit = '"'.toNat) ∨ (!quotes ∧ unit = ' '.toNat) then
      '\\' :: octets
    else if call.isShown unit then octets
    else Quoting.escape unit octets)
  match spelling with
  | .plain => name
  | .escaped => escaped false
  | .quoted => "\"" ++ escaped true ++ "\""
  | .questioned => String.ofList (units.flatMap fun unit =>
      if call.isShown unit then call.ofGlyphs [unit] else ['?'])
  | .shell => call.quoteWord name
  | .shellAlways => call.quoteName name

/-- The mark of a file after its name. -/
def fileMark (marking : Marking) (file : DiskFile) : String :=
  match marking, file.body with
  | .none, _ => ""
  | _, .directory .. => "/"
  | .directories, _ => ""
  | _, .link _ => "@"
  | .all, _ => if file.isExecutable then "*" else ""
  | .kinds, _ => ""

/-- A size in letters for multiples of 1024, rounded up. -/
def humanSize (size : Nat) : String :=
  let letters := ["", "K", "M", "G", "T", "P", "E"]
  let rec go (unit : Nat) : List String → String
    | [] => toString size
    | letter :: rest =>
      if size < unit * 1024 ∨ rest.isEmpty then
        if unit = 1 then toString size
        else
          let tenths := (size * 10 + unit - 1) / unit
          if tenths < 100 then
            toString (tenths / 10) ++ "." ++ toString (tenths % 10) ++ letter
          else
            let whole := (size + unit - 1) / unit
            if whole ≥ 1024 ∧ !rest.isEmpty then go (unit * 1024) rest
            else toString whole ++ letter
      else go (unit * 1024) rest
  go 1 letters

/-! ### Order -/

/-- The moment of a file that is shown. -/
def shownMoment (manner : ListingManner) (file : DiskFile) : Int :=
  match manner.moment with
  | 'a' => file.accessed
  | 'c' => file.changed
  | _ => file.modified

/-- The part of a name from its last dot on. -/
def suffixOf (name : String) : String :=
  if name.contains '.' then
    "." ++ String.ofList (name.toList.reverse.takeWhile (· != '.')).reverse
  else ""

/-- Puts names in order. -/
def ordered (manner : ListingManner) (names : List Listed) : List Listed :=
  let byName (a b : Listed) : Bool := a.name ≤ b.name
  let by' (key : Listed → Int) (a b : Listed) : Bool :=
    key a < key b || (key a == key b && byName a b)
  let sorted := match manner.order with
    | .none => names
    | .name => names.mergeSort byName
    | .time => names.mergeSort (by' fun entry => -(shownMoment manner entry.file))
    | .size => names.mergeSort (by' fun entry => -(entry.file.size : Int))
    | .width => names.mergeSort (by' fun entry => entry.name.length)
    | .suffix =>
      names.mergeSort fun a b =>
        suffixOf a.name < suffixOf b.name || (suffixOf a.name == suffixOf b.name && byName a b)
    | .version => names.mergeSort fun a b => Version.isBefore a.name b.name
  let sorted := if manner.reversed ∧ manner.order ≠ .none then sorted.reverse else sorted
  if manner.directoriesFirst ∧ manner.order ≠ .none then
    sorted.filter (·.file.isDirectory) ++ sorted.filter (!·.file.isDirectory)
  else sorted

/-! ### Layout -/

/-- What a listing is made for. -/
structure Listing where
  call : Invocation
  disk : Disk
  now : Int
  manner : ListingManner

namespace Listing

/-- The name with its mark, without what it leads to. -/
def label (listing : Listing) (entry : Listed) : String :=
  spelledName listing.call listing.manner.spelling entry.name ++
    fileMark listing.manner.marking entry.file

/-- The number of blocks of a file, as it is shown. -/
def blocks (listing : Listing) (file : DiskFile) : String :=
  if listing.manner.human then humanSize (512 * blocksOf file)
  else toString ((blocksOf file + 1) / 2)

/-- The size of a file, as it is shown. -/
def sizeText (listing : Listing) (file : DiskFile) : String :=
  match file.body with
  | .device _ =>
    let (major, minor) := deviceNumbers file
    toString major ++ ", " ++ toString minor
  | _ => if listing.manner.human then humanSize file.size else toString file.size

/-- The widest of some texts. -/
def widest (texts : List String) : Nat := (texts.map String.length).foldl max 0

/-- The columns of the names before the names themselves. -/
def frills (listing : Listing) (entries : List Listed) : Listed → String :=
  let numbers (entry : Listed) : String := toString (1048576 + entry.number)
  let numberWidth := widest (entries.map numbers)
  let blockWidth := widest (entries.map fun entry => listing.blocks entry.file)
  fun entry =>
    (if listing.manner.showsNumbers then right numberWidth (numbers entry) ++ " " else "") ++
      (if listing.manner.showsBlocks then right blockWidth (listing.blocks entry.file) ++ " " else "")

/-- The moment of a file, as it is shown. -/
def momentText (listing : Listing) (file : DiskFile) : String :=
  let moment := shownMoment listing.manner file
  let isRecent := listing.now - 15778476 * 10 ^ 9 < moment && moment < listing.now
  let (old, recent) := listing.manner.formats
  Calendar.formatted (zoneOf listing.call) (if isRecent then recent else old) moment

/-- The lines of names with all that is known of their files. -/
def longLines (listing : Listing) (entries : List Listed) : List String :=
  let manner := listing.manner
  let links (entry : Listed) : String := toString (listing.disk.linkCount entry.number)
  let owner (number : Nat) : String := if manner.numericOwners then toString number
    else accountName number
  let size (entry : Listed) : String := listing.sizeText entry.file
  let linkWidth := widest (entries.map links)
  let ownerWidth := widest (entries.map fun entry => owner entry.file.owner)
  let groupWidth := widest (entries.map fun entry => owner entry.file.group)
  let sizeWidth := widest (entries.map size)
  let frills := listing.frills entries
  entries.map fun entry =>
    let target := match entry.file.body with
      | .link target => " -> " ++ spelledName listing.call manner.spelling target
      | _ => ""
    let label := match entry.file.body with
      | .link _ => spelledName listing.call manner.spelling entry.name
      | _ => listing.label entry
    let name (number : Nat) : String :=
      if manner.numericOwners then toString number else accountName number
    String.join [frills entry, modeLetters entry.file, " ", right linkWidth (links entry), " ",
      if manner.showsOwner then left ownerWidth (name entry.file.owner) ++ " " else "",
      if manner.showsGroup then left groupWidth (name entry.file.group) ++ " " else "",
      right sizeWidth (size entry), " ", listing.momentText entry.file, " ", label, target]

/-- Blanks and tabs that lead from a column to another. -/
def indent : (measure : Nat) → (column target : Nat) → String
  | 0, _, _ => ""
  | measure + 1, column, target =>
    if column ≥ target then ""
    else if target / 8 > (column + 1) / 8 then
      "\t" ++ indent measure (column + 8 - column % 8) target
    else " " ++ indent measure (column + 1) target

/-- The widths of so many columns of texts, two blanks apart. -/
def columnWidths (down : Bool) (widths : List Nat) (columns : Nat) : List Nat :=
  let rows := (widths.length + columns - 1) / columns
  (List.range columns).map fun column =>
    let mine := widths.zipIdx.filter fun entry =>
      (if down then entry.2 / rows else entry.2 % columns) == column
    let isLast := column + 1 == columns
    (mine.map fun entry => entry.1 + if isLast then 0 else 2).foldl max 3

/-- Lays texts out in as many columns as there is room for. -/
def inColumns (down : Bool) (room : Nat) (texts : List String) : String :=
  let widths := texts.map String.length
  let most := min texts.length (max 1 (room / 3))
  let fits (columns : Nat) : Bool := (columnWidths down widths columns).foldl (· + ·) 0 < room
  let columns := (((List.range most).map (· + 1)).reverse.find? fits).getD 1
  let rows := (texts.length + columns - 1) / columns
  let columnsWidths := columnWidths down widths columns
  let starts := columnsWidths.foldl (fun (sums : List Nat) width =>
    sums ++ [sums.getLastD 0 + width]) [0]
  let line (row : Nat) : String :=
    let cells := (List.range columns).filterMap fun column =>
      let index := if down then column * rows + row else row * columns + column
      (texts[index]?).map fun text => (starts.getD column 0, text)
    (cells.foldl (fun (done, column) (start, text) =>
      (done ++ indent 1000 column start ++ text, start + text.length)) ("", 0)).1
  String.join ((List.range rows).map fun row => line row ++ "\n")

/-- Lays texts out one after another, with commas between them. -/
def withCommas (room column : Nat) (isFirst : Bool) : List String → String
  | [] => if isFirst then "" else "\n"
  | text :: rest =>
    if isFirst then text ++ withCommas room text.length false rest
    else if column + text.length + 2 < room then
      ", " ++ text ++ withCommas room (column + 2 + text.length) false rest
    else ",\n" ++ text ++ withCommas room text.length false rest

/-- Lays names out. -/
def layOut (listing : Listing) (entries : List Listed) : String :=
  let frills := listing.frills entries
  let labels := entries.map fun entry => frills entry ++ listing.label entry
  let manner := listing.manner
  match manner.layout with
  | .lines => String.join (labels.map (· ++ manner.ending))
  | .long => String.join ((listing.longLines entries).map (· ++ manner.ending))
  | .columns => inColumns true manner.width labels
  | .across => inColumns false manner.width labels
  | .commas => withCommas manner.width 0 true labels

/-- The names that are listed of a directory. -/
def namesOf (listing : Listing) (number : FileNumber) : List Listed :=
  let manner := listing.manner
  let disk := listing.disk
  let pattern (text : String) : List PatternElement :=
    Pattern.ofChars (text.toList.map fun c => ⟨c, false⟩)
  let shown (name : String) : Bool :=
    (manner.hidden || !name.startsWith ".") &&
      !manner.ignored.any fun text => Pattern.isMatch (pattern text) name.toList
  let dots := if manner.dots then [(".", number), ("..", disk.above number)] else []
  let entries := dots ++ (disk.entries number).filter fun entry => shown entry.1
  let found := entries.filterMap fun (name, inner) =>
    let seen := if manner.follows then (disk.inspect number name).toOption else none
    match seen with
    | some (inner, file) => some { name, number := inner, file : Listed }
    | none => (disk.find? inner).map fun file => { name, number := inner, file : Listed }
  ordered manner found

/-- The listing of a directory. -/
def ofDirectory (listing : Listing) (number : FileNumber) : String :=
  let entries := listing.namesOf number
  let manner := listing.manner
  let sum := entries.foldl (fun sum entry => sum + blocksOf entry.file) 0
  let total := if manner.layout = .long ∨ manner.showsBlocks then
      "total " ++ (if manner.human then humanSize (512 * sum) else toString ((sum + 1) / 2)) ++
        manner.ending
    else ""
  total ++ listing.layOut entries

/-- The listings of directories by their paths, with those below them if that is asked for. -/
def ofDirectories (listing : Listing) : (measure : Nat) → List (String × FileNumber) →
    List (String × String)
  | 0, _ => []
  | measure + 1, directories =>
    directories.flatMap fun (path, number) =>
      let below := if listing.manner.recursive then
          ((listing.namesOf number).filter fun entry =>
            entry.file.isDirectory && entry.name != "." && entry.name != "..").map fun entry =>
              (pathBelow path entry.name, entry.number)
        else []
      (path, listing.ofDirectory number) :: ofDirectories listing measure below

end Listing

/-! ### The program -/

/-- The manner that options ask for, starting from another. -/
def listingManner (start : ListingManner) (arguments : Arguments) :
    Except (String × String) ListingManner :=
  arguments.options.foldlM (fun manner (letter, value) =>
    let bad (name : String) : Except (String × String) ListingManner := .error (name, value)
    match letter with
    | '1' => .ok (if manner.layout = .long then manner else { manner with layout := .lines })
    | 'a' => .ok { manner with hidden := true, dots := true }
    | 'A' => .ok { manner with hidden := true, dots := false }
    | 'b' => .ok { manner with spelling := .escaped }
    | 'B' => .ok { manner with ignored := "*~" :: ".*~" :: manner.ignored }
    | 'c' => .ok { manner with
        moment := 'c', order := if manner.layout = .long then manner.order else
          (if manner.order = .name then .time else manner.order) }
    | 'C' => .ok { manner with layout := .columns }
    | 'd' => .ok { manner with asFiles := true }
    | 'f' => .ok { manner with
        hidden := true, dots := true, order := .none
        layout := if manner.layout = .long then .lines else manner.layout }
    | 'F' => .ok { manner with marking := .all }
    | 'g' => .ok { manner with layout := .long, showsOwner := false }
    | 'G' => .ok { manner with showsGroup := false }
    | 'h' | 'ς' => .ok { manner with human := true }
    | 'i' => .ok { manner with showsNumbers := true }
    | 'I' | 'η' => .ok { manner with ignored := value :: manner.ignored }
    | 'l' => .ok { manner with layout := .long }
    | 'L' => .ok { manner with follows := true }
    | 'm' => .ok { manner with layout := .commas }
    | 'n' => .ok { manner with layout := .long, numericOwners := true }
    | 'N' => .ok { manner with spelling := .plain }
    | 'o' => .ok { manner with layout := .long, showsGroup := false }
    | 'p' => .ok { manner with marking := .directories }
    | 'q' => .ok { manner with spelling := .questioned }
    | 'Q' => .ok { manner with spelling := .quoted }
    | 'r' => .ok { manner with reversed := true }
    | 'R' => .ok { manner with recursive := true }
    | 's' => .ok { manner with showsBlocks := true }
    | 'S' => .ok { manner with order := .size }
    | 't' => .ok { manner with order := .time }
    | 'u' => .ok { manner with
        moment := 'a', order := if manner.layout = .long then manner.order else
          (if manner.order = .name then .time else manner.order) }
    | 'U' => .ok { manner with order := .none }
    | 'v' => .ok { manner with order := .version }
    | 'w' =>
      match value.toNat? with
      | some 0 => .ok { manner with width := 100000 }
      | some width => .ok { manner with width }
      | none => bad "line width"
    | 'x' => .ok { manner with layout := .across }
    | 'X' => .ok { manner with order := .suffix }
    | 'δ' => .ok { manner with directoriesFirst := true }
    | 'φ' => .ok { manner with marking := .kinds }
    | 'ζ' => .ok { manner with
        ending := "\x00"
        layout := if manner.layout = .long then .long else .lines }
    | 'τ' => .ok { manner with
        layout := .long, formats := ("%Y-%m-%d %H:%M:%S.%N %z", "%Y-%m-%d %H:%M:%S.%N %z") }
    | 'σ' =>
      match value with
      | "none" => .ok { manner with order := .none }
      | "time" => .ok { manner with order := .time }
      | "size" => .ok { manner with order := .size }
      | "extension" => .ok { manner with order := .suffix }
      | "version" => .ok { manner with order := .version }
      | "width" => .ok { manner with order := .width }
      | _ => bad "--sort"
    | 'ι' =>
      match value with
      | "none" => .ok { manner with marking := .none }
      | "slash" => .ok { manner with marking := .directories }
      | "file-type" => .ok { manner with marking := .kinds }
      | "classify" => .ok { manner with marking := .all }
      | _ => bad "--indicator-style"
    | 'θ' =>
      match value with
      | "literal" => .ok { manner with spelling := .plain }
      | "escape" => .ok { manner with spelling := .escaped }
      | "c" => .ok { manner with spelling := .quoted }
      | "shell" | "shell-escape" => .ok { manner with spelling := .shell }
      | "shell-always" | "shell-escape-always" => .ok { manner with spelling := .shellAlways }
      | _ => bad "--quoting-style"
    | 'ψ' =>
      match value with
      | "atime" | "access" | "use" => .ok { manner with moment := 'a' }
      | "ctime" | "status" => .ok { manner with moment := 'c' }
      | "mtime" | "modification" => .ok { manner with moment := 'm' }
      | _ => bad "--time"
    | 'γ' =>
      match value with
      | "long" | "verbose" => .ok { manner with layout := .long }
      | "commas" => .ok { manner with layout := .commas }
      | "horizontal" | "across" => .ok { manner with layout := .across }
      | "vertical" => .ok { manner with layout := .columns }
      | "single-column" => .ok { manner with layout := .lines }
      | _ => bad "--format"
    | 'ξ' =>
      match value with
      | "full-iso" => .ok { manner with
          formats := ("%Y-%m-%d %H:%M:%S.%N %z", "%Y-%m-%d %H:%M:%S.%N %z") }
      | "long-iso" => .ok { manner with formats := ("%Y-%m-%d %H:%M", "%Y-%m-%d %H:%M") }
      | "iso" => .ok { manner with formats := ("%Y-%m-%d ", "%m-%d %H:%M") }
      | "locale" => .ok manner
      | other =>
        if other.startsWith "+" then
          match ((other.drop 1).toString).splitOn "\n" with
          | [format] => .ok { manner with formats := (format, format) }
          | old :: recent :: _ => .ok { manner with formats := (old, recent) }
          | [] => .ok manner
        else bad "time style"
    | _ => .ok manner) start

/-- Lists in a manner that options change. -/
def listIn (start : ListingManner) : Utility := fun call =>
  let accepted : Accepted :=
    { letters := "abcdfghiklmnopqrstuvw:xABCDFGHI:LNQRST:UXZ1δφζτσ:ι:θ:ψ:γ:ξ:η:κχΔΣς", attached := "κχ"
      names := [("all", 'a'), ("escape", 'b'), ("directory", 'd'), ("dired", 'D'),
        ("full-time", 'τ'), ("group-directories-first", 'δ'), ("human-readable", 'h'),
        ("inode", 'i'), ("kibibytes", 'k'), ("numeric-uid-gid", 'n'), ("no-group", 'G'),
        ("hide-control-chars", 'q'), ("reverse", 'r'), ("size", 's'), ("width", 'w'),
        ("almost-all", 'A'), ("ignore-backups", 'B'), ("classify", 'F'), ("file-type", 'φ'),
        ("si", 'ς'), ("dereference-command-line", 'H'),
        ("dereference-command-line-symlink-to-dir", 'Δ'), ("hide", 'η'), ("ignore", 'I'),
        ("indicator-style", 'ι'), ("dereference", 'L'), ("literal", 'N'), ("quote-name", 'Q'),
        ("quoting-style", 'θ'), ("recursive", 'R'), ("format", 'γ'), ("show-control-chars", 'Σ'),
        ("sort", 'σ'), ("tabsize", 'T'), ("time", 'ψ'), ("time-style", 'ξ'), ("zero", 'ζ'),
        ("color", 'κ'), ("hyperlink", 'χ'), ("context", 'Z')] }
  accepted.read call 2 fun arguments =>
    match listingManner start arguments with
    | .error ("line width", value) => Job.fail call ("invalid line width: " ++ call.quote value) 2
    | .error (name, value) =>
      Job.misuse call ("invalid argument " ++ call.quote value ++ " for " ++ call.quote name) 2
    | .ok manner =>
      let operands := if arguments.operands.isEmpty then ["."] else arguments.operands
      .disk fun disk stand =>
        let here := stand.directory
        let listing : Listing := { call, disk, now := stand.moment, manner }
        -- A link to a directory is listed like one, unless it is told of as a file.
        let look (path : String) : Except SystemFault (FileNumber × DiskFile) :=
          let asLink := !manner.follows && !arguments.has 'H' &&
            (manner.layout == .long || manner.asFiles || manner.marking == .all)
          if asLink then disk.inspect here path false
          else
            match disk.inspect here path with
            | .ok (number, file) =>
              if manner.follows ∨ arguments.has 'H' ∨ file.isDirectory then .ok (number, file)
              else disk.inspect here path false
            | .error fault =>
              if manner.follows ∨ arguments.has 'H' then .error fault
              else disk.inspect here path false
        let looked := operands.map fun path => (path, look path)
        let complaints := looked.filterMap fun (path, found) =>
          match found with
          | .error fault =>
            some (call.name ++ ": cannot access " ++ call.quoteName path ++ ": " ++ fault.message ++
              "\n")
          | .ok _ => none
        let entries := ordered manner (looked.filterMap fun (path, found) =>
          found.toOption.map fun (number, file) => { name := path, number, file : Listed })
        let files := entries.filter fun entry => manner.asFiles || !entry.file.isDirectory
        let directories := entries.filter fun entry => !manner.asFiles && entry.file.isDirectory
        let blocks := listing.ofDirectories 100
          (directories.map fun entry => (entry.name, entry.number))
        let titled := manner.recursive || operands.length > 1
        let blocks := blocks.map fun (path, text) =>
          (if titled then spelledName call manner.spelling path ++ ":\n" else "") ++ text
        let all := (if files.isEmpty then [] else [listing.layOut files]) ++ blocks
        let output := String.intercalate "\n" all
        let finish : Job := .exit (if complaints.isEmpty then 0 else 2)
        (disk, Job.complain (String.join complaints)
          (if output = "" then finish else Job.say call output finish))

/-- The program `ls`. -/
def ls : Utility := listIn {}

/-- The program `dir`. -/
def dir : Utility := listIn { layout := .columns, spelling := .escaped }

/-- The program `vdir`. -/
def vdir : Utility := listIn { layout := .long, spelling := .escaped }

end Utility

end ArtifactLens.Shell
