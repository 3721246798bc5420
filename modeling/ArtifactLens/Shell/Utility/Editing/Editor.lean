import ArtifactLens.Shell.Utility.Editing.Reading
import ArtifactLens.Shell.Utility.Editing.Substitution
import ArtifactLens.Shell.Utility.Filing
import ArtifactLens.Shell.Utility.Source

/-!
# The state of an edit

An edit holds a text in its pattern space and another in its hold space. What it puts out is kept
until there is enough of it, and it reads an input no further than it has to. Reading and writing
are requests, so that an edit takes its turn among what other programs do.
-/

namespace ArtifactLens.Shell

namespace Utility.Editing

/-- What is put out after the line in hand. -/
inductive Postponed where
  | text (text : String)
  | file (name : String)

/-- How far the range of a command has come. -/
inductive RangeState where
  | outside
  /-- Within the range, up to a line that is known by number or is still to be found. -/
  | inside (last : Option Nat)
  /-- Past a range that began at a line known by number, and does not begin again. -/
  | closed
  deriving DecidableEq

/-- Texts that wait to be written, the newest first. -/
structure Stream where
  /-- Where the texts go; those without a descriptor are kept for the file that is edited. -/
  descriptor : Option Nat
  pieces : List String := []
  size : Nat := 0

/-- Something that is written to by name; the output proper has no name. -/
structure Outlet where
  name : String
  descriptor : Option Nat
  /-- The last line put out has no end yet. -/
  lacksEnd : Bool := false

/-- The input in hand. -/
inductive Current where
  | nothing
  | standard
  | file (source : Source)

/-- A file that is read line by line; all of it, and the lines that were not taken yet. -/
structure Companion where
  name : String
  lines : List Line
  ahead : List Line

/-- How an edit is made. -/
structure Manner where
  call : Invocation
  script : Script
  quiet : Bool
  /-- What stands between lines. -/
  separator : Char
  width : Nat
  strict : Bool
  /-- Inputs are taken apart from each other. -/
  separate : Bool
  /-- Nothing is kept back, and no more is read than is wanted. -/
  unbuffered : Bool
  /-- The files themselves are edited; their former contents go to names that are made so. -/
  inPlace : Option String
  followsLinks : Bool

/-- The state of an edit. -/
structure Editor where
  names : List String
  current : Current := .nothing
  title : String := "-"
  /-- The standard input. -/
  standard : Source := { descriptor := 0 }
  number : Nat := 0
  pattern : Line := {}
  hold : Line := {}
  streams : List Stream := []
  outlets : List Outlet := [⟨"", some 1, false⟩]
  companions : List Companion := []
  postponed : List Postponed := []
  ranges : Array RangeState
  lastPattern : Option Pattern := none
  /-- A substitution was made since a line was read. -/
  changed : Bool := false
  /-- The next input begins anew. -/
  isReset : Bool := false
  /-- Some input could not be read. -/
  failed : Bool := false

namespace Manner

/-- The characters of a text. -/
def glyphs (manner : Manner) (text : String) : List Nat := manner.call.glyphs text.toList

/-- The text of characters. -/
def ofGlyphs (manner : Manner) (glyphs : List Nat) : String :=
  String.ofList (manner.call.ofGlyphs glyphs)

/-- The state in which the range of a command begins. -/
def startOf (command : Command) : RangeState :=
  match command.first with
  | some (.line 0) => .inside none
  | _ => .outside

/-- The states in which ranges begin. -/
def ranges (manner : Manner) : Array RangeState := manner.script.commands.map startOf

end Manner

namespace Editor

/-! ### Putting out -/

/-- How much is kept back at most. -/
def blockSize : Nat := 4096

/-- Adds a text to a stream. -/
def addTo (streams : List Stream) (descriptor : Option Nat) (text : String) : List Stream :=
  match streams with
  | [] => [⟨descriptor, [text], text.length⟩]
  | stream :: rest =>
    if stream.descriptor = descriptor then
      { stream with pieces := text :: stream.pieces, size := stream.size + text.length } :: rest
    else stream :: addTo rest descriptor text

/-- Puts a text out, after the end that the last line still lacks. -/
def put (manner : Manner) (editor : Editor) (name text : String) (ended : Bool := true) : Editor :=
  match editor.outlets.find? (·.name == name) with
  | none => editor
  | some outlet =>
    let text := if outlet.lacksEnd then String.singleton manner.separator ++ text else text
    { editor with
      streams := addTo editor.streams outlet.descriptor text
      outlets := editor.outlets.map fun other =>
        if other.name == name then { other with lacksEnd := !ended } else other }

/-- Puts a line out. -/
def putLine (manner : Manner) (editor : Editor) (name : String) (line : Line) : Editor :=
  if line.ended then editor.put manner name (line.text.push manner.separator)
  else editor.put manner name line.text false

/-- Puts a text of the script out before the line in hand, ended as lines are. -/
def putText (manner : Manner) (editor : Editor) (text : String) : Editor :=
  if text = "" then editor.put manner "" ""
  else
    editor.put manner "" (if text.endsWith "\n" then (text.dropEnd 1).toString.push manner.separator
      else text)

/-- The streams in the order in which they are written in the end, the output proper last. -/
def inOrder (streams : List Stream) : List Stream :=
  let (output, files) := streams.partition (·.descriptor == some 1)
  files ++ output

/-- Ends after everything was put out. -/
def finishWith (streams : List Stream) (ending : Job) : Job :=
  (inOrder streams).foldr (fun stream rest =>
    match stream.descriptor with
    | none => rest
    | some descriptor => .write descriptor (String.join stream.pieces.reverse) fun _ => rest) ending

/-- Complains about something that cannot be helped, and ends. -/
def panic (manner : Manner) (editor : Editor) (text : String) (status : Nat := 4) : Job :=
  Job.warn manner.call text (finishWith editor.streams (.exit status))

/-- What is told where a stream cannot be written. -/
def writeComplaint (descriptor : Nat) (fault : SystemFault) : String :=
  if descriptor = 0 then "couldn't write 1 item to stdin: " ++ fault.message
  else "couldn't flush " ++
    (if descriptor = 1 then "stdout" else if descriptor = 2 then "stderr" else "<unknown>") ++
    ": " ++ fault.message

/-- Writes what the streams hold: all of it, or whole blocks. -/
def emit (manner : Manner) (all : Bool) (editor : Editor) (next : Editor → Job) : Job :=
  let rec go (done : List Stream) : List Stream → Job
    | [] => next { editor with streams := done.reverse }
    | stream :: rest =>
      match stream.descriptor with
      | none => go (stream :: done) rest
      | some descriptor =>
        let wholly := all || manner.unbuffered || descriptor == 2 || descriptor == 0
        if stream.size = 0 ∨ (!wholly ∧ stream.size ≤ blockSize) then go (stream :: done) rest
        else
          let text := String.join stream.pieces.reverse
          let size := if wholly then text.length else text.length / blockSize * blockSize
          let later := (text.drop size).toString
          .write descriptor (text.take size).toString fun fault =>
            match fault with
            | none => go ({ stream with pieces := [later], size := later.length } :: done) rest
            | some fault =>
              Job.warn manner.call (writeComplaint descriptor fault)
                (finishWith (done ++ rest) (.exit 4))
  go [] (inOrder editor.streams)

/-- Some stream is to be written. -/
def isDue (manner : Manner) (editor : Editor) : Bool :=
  editor.streams.any fun stream =>
    stream.size > 0 && stream.descriptor.isSome &&
      (stream.size > blockSize || manner.unbuffered || stream.descriptor == some 2 ||
        stream.descriptor == some 0)

/-! ### Reading -/

/-- The source of the input in hand. -/
def source? (editor : Editor) : Option Source :=
  match editor.current with
  | .nothing => none
  | .standard => some editor.standard
  | .file source => some source

/-- Changes the source of the input in hand. -/
def setSource (editor : Editor) (source : Source) : Editor :=
  match editor.current with
  | .nothing => editor
  | .standard => { editor with standard := source }
  | .file _ => { editor with current := .file source }

/-- Reads on until a source fits, or nothing is left to be read. -/
def readOn (manner : Manner) (fits : Source → Bool) (title : String) (editor : Editor)
    (next : Source → Job) : (measure : Nat) → Source → Job
  | 0, source => next source
  | measure + 1, source =>
    if source.isOver ∨ fits source then next source
    else
      .read source.descriptor (if manner.unbuffered then 1 else blockSize) fun text =>
        match text with
        | .ok text => readOn manner fits title editor next measure (source.add manner.separator text)
        | .error fault =>
          let title := if title = "-" then "stdin" else title
          editor.panic manner ("read error on " ++ title ++ ": " ++ fault.message)

/-- Reads on in the input in hand until it fits. -/
def fill (manner : Manner) (fits : Source → Bool) (editor : Editor) (next : Editor → Job) : Job :=
  match editor.source? with
  | none => next editor
  | some source =>
    readOn manner fits editor.title editor (fun source => next (editor.setSource source)) mostReads
      source

/-! ### Files that are edited -/

/-- The directory part of a path, with its slash. -/
def directoryPart (path : String) : String :=
  String.ofList ((path.toList.reverse.dropWhile (· != '/')).reverse)

/-- The path for the former contents of a file: each asterisk of the pattern stands for its name. -/
def backupPath (pattern path : String) : String :=
  let directory := directoryPart path
  let name := (path.drop directory.length).toString
  let made := if pattern.contains '*' then String.intercalate name (pattern.splitOn "*")
    else name ++ pattern
  directory ++ made

/-- The path that links at the end of a path lead to. -/
def withoutLinks (disk : Disk) (stand : Standpoint) (path : String) : String :=
  match disk.inspect stand.directory path false with
  | .ok (_, { body := .link _, .. }) =>
    match disk.resolve stand.directory path with
    | .ok spot => disk.pathOfSpot spot
    | .error _ => path
  | _ => path

/-- Gives a file a new content under its name, and its former self another name if one is wanted. -/
def store (disk : Disk) (stand : Standpoint) (path : String) (backup : Option String)
    (text : String) : Except SystemFault Disk := do
  let (_, file) ← disk.inspect stand.directory path
  let disk ← match backup with
    | some backup => disk.rename stand path backup
    | none => pure disk
  let made := directoryPart path ++ "sed" ++ toString disk.fresh
  let (disk, number) ← disk.make stand made (.octets text) file.mode
  (disk.change number fun new => { new with owner := file.owner, group := file.group }).rename
    stand made path

/-- Ends the work on the input in hand. -/
def closeInput (manner : Manner) (editor : Editor) (next : Editor → Job) : Job :=
  let close (editor : Editor) : Job :=
    match editor.current with
    | .file source => .close source.descriptor (next { editor with current := .nothing })
    | _ => next { editor with current := .nothing }
  let editor := { editor with isReset := editor.isReset || manner.separate }
  match manner.inPlace, editor.current with
  | some pattern, .file _ =>
    let text := String.join ((editor.streams.find? (·.descriptor.isNone)).map
      (·.pieces.reverse) |>.getD [])
    let editor := { editor with
      streams := editor.streams.filter (·.descriptor.isSome)
      outlets := editor.outlets.map fun outlet =>
        if outlet.name == "" then { outlet with lacksEnd := false } else outlet }
    .disk fun disk stand =>
      let path := if manner.followsLinks then withoutLinks disk stand editor.title else editor.title
      let backup := if pattern = "" then none else some (backupPath pattern path)
      match store disk stand path backup text with
      | .ok disk => (disk, close editor)
      | .error fault =>
        (disk, editor.panic manner ("cannot rename " ++ path ++ ": " ++ fault.message))
  | _, _ => close editor

/-- Opens the next input, if there is one. -/
def openInput (manner : Manner) (editor : Editor) (next : Editor → Job) : Job :=
  match editor.names with
  | [] => next editor
  | name :: names =>
    let editor := { editor with names }
    let editor := if !editor.isReset then editor
      else
        let editor := { editor with
          number := 0, hold := {}, ranges := manner.ranges, isReset := false
          companions := editor.companions.map fun file => { file with ahead := file.lines } }
        if manner.strict ∨ manner.inPlace.isSome then editor else editor.put manner "" ""
    if name = "-" ∧ manner.inPlace.isNone then
      next { editor with title := "-", current := .standard }
    else
      .open name { reads := true } fun opened =>
        match opened with
        | .error fault =>
          Job.warn manner.call ("can't read " ++ name ++ ": " ++ fault.message)
            (next { editor with failed := true })
        | .ok descriptor =>
          let goOn : Job :=
            next { editor with title := name, current := .file { descriptor } }
          if manner.inPlace.isNone then goOn
          else
            .disk fun disk stand =>
              match disk.inspect stand.directory name with
              | .ok (_, { body := .octets _, .. }) => (disk, goOn)
              | _ =>
                (disk, editor.panic manner ("couldn't edit " ++ name ++ ": not a regular file"))

/-- The most inputs that are opened. -/
def mostInputs : Nat := 1000000000

/-- Tells whether no line comes after the one in hand; inputs without lines are passed over for that,
unless each input is taken by itself. -/
def whetherLast (manner : Manner) (next : Editor → Bool → Job) : (measure : Nat) → Editor → Job
  | 0, editor => next editor true
  | measure + 1, editor =>
    fill manner Source.hasText editor fun editor =>
      if editor.source?.any Source.hasText then next editor false
      else if manner.separate then next editor true
      else
        closeInput manner editor fun editor =>
          if editor.names.isEmpty then next editor true
          else openInput manner editor fun editor => whetherLast manner next measure editor

/-- Reads a file, which need not be there. -/
def readFile (name : String) (next : String → Job) : Job :=
  .open name { reads := true } fun opened =>
    match opened with
    | .ok descriptor =>
      Job.slurp descriptor fun text => .close descriptor (next (text.toOption.getD ""))
    | .error _ => next ""

/-- Puts out what was postponed. -/
def flushPostponed (manner : Manner) (editor : Editor) (next : Editor → Job) : Job :=
  let rec go (editor : Editor) : List Postponed → Job
    | [] => next editor
    | .text text :: rest => go (editor.put manner "" text) rest
    | .file "/dev/stdin" :: rest =>
      readOn manner (fun _ => false) "-" editor (fun source =>
        let separator := String.singleton manner.separator
        let text := String.join (source.lines.map (· ++ separator)) ++ source.rest
        let editor := { editor with standard := { source with lines := [], rest := "" } }
        go (editor.put manner "" text) rest) mostReads editor.standard
    | .file name :: rest =>
      readFile name fun text =>
        go (editor.put manner "" text) rest
  go { editor with postponed := [] } editor.postponed.reverse

/-- Reads the next line into the pattern space, or after what it holds; tells whether there was one.
What was postponed comes out before. -/
def nextLine (manner : Manner) (appends : Bool) (editor : Editor) (next : Editor → Bool → Job) :
    Job :=
  let rec go : (measure : Nat) → Editor → Job
    | 0, editor => next editor false
    | measure + 1, editor =>
      match editor.source? with
      | none =>
        if editor.names.isEmpty then next editor false else openInput manner editor (go measure)
      | some _ =>
        fill manner Source.hasLine editor fun editor =>
          match editor.source?.bind Source.take? with
          | none => closeInput manner editor (go measure)
          | some (line, source) =>
            let editor := editor.setSource source
            let text := if appends then editor.pattern.text.push manner.separator ++ line.text
              else line.text
            next { editor with number := editor.number + 1, pattern := { line with text } } true
  flushPostponed manner editor fun editor =>
    let go (editor : Editor) : Job := go mostInputs { editor with changed := false }
    if editor.isDue manner then editor.emit manner false go else go editor

end Editor

end Utility.Editing

end ArtifactLens.Shell
