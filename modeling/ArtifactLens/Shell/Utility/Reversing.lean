import ArtifactLens.Shell.Regex.Matching
import ArtifactLens.Shell.Regex.Reading
import ArtifactLens.Shell.Utility.Filtering

/-!
# Turning texts around

The program `tac` puts the records of its inputs out from the last to the first, and `rev` turns every
line around.
-/

namespace ArtifactLens.Shell

namespace Utility

/-! ### Records -/

/-- What records are separated by. -/
inductive RecordMark where
  | text (mark : String)
  | matching (regex : Regex)

/-- Where separators stand in a text, from the last one on: the start of each and its end. A search
goes back from the end of the text or from the separator found before. -/
def marksIn (regex : Regex) (units : Array Nat) :
    (measure : Nat) → (limit : Nat) → List (Nat × Nat)
  | 0, _ => []
  | measure + 1, limit =>
    if limit = 0 then []
    else
      let subject : Regex.Subject := { chars := units.extract 0 limit, lineMark := some 0x0a }
      let found := ((List.range limit).reverse).findSome? fun start =>
        (Regex.furthest (regex.ends subject start)).map fun spot => (start, spot.position)
      match found with
      | none => []
      | some (start, stop) =>
        -- All but one of the characters of a separator are kept off the next search.
        (start, stop) :: marksIn regex units measure (if stop > start then start - (stop - start - 1)
          else start)

/-- The records of a text from the last to the first, given where separators stand. With `before`
each separator begins a record, and else it ends one. -/
def turnRecords (before : Bool) (cut : Nat → Nat → List Char) (size : Nat)
    (marks : List (Nat × Nat)) : List Char :=
  let (done, last, _) := marks.foldl (fun (done, last, isFirst) (start, stop) =>
    if before then (done ++ [cut start last], start, false)
    else if isFirst ∧ stop = last then (done, stop, false)
    else (done ++ [cut stop last], stop, false)) (([] : List (List Char)), size, true)
  (done ++ [cut 0 last]).flatten

/-- A text with its records from the last to the first. -/
def reverseRecords (call : Invocation) (mark : RecordMark) (before : Bool) (text : String) :
    String :=
  match mark with
  | .text mark =>
    -- Separators are looked for from the end.
    let turned (text : String) : String := String.ofList text.toList.reverse
    let pieces := ((turned text).splitOn (turned mark)).map turned
    if before then
      String.join (pieces.dropLast.map (mark ++ ·)) ++ pieces.getLastD ""
    else pieces.headD "" ++ String.join ((pieces.drop 1).map (· ++ mark))
  | .matching regex =>
    let units := (call.glyphs text.toList).toArray
    let cut (start stop : Nat) : List Char := call.ofGlyphs (units.extract start stop).toList
    String.ofList
      (turnRecords before cut units.size (marksIn regex units (units.size + 1) units.size))

/-- The program `tac`. -/
def tac : Utility := fun call =>
  let accepted : Accepted :=
    { letters := "brs:", names := [("before", 'b'), ("regex", 'r'), ("separator", 's')] }
  accepted.read call 1 fun arguments =>
    let given := (arguments.value? 's').getD "\n"
    let run (mark : RecordMark) : Job :=
      let turn (progress : Progress Unit) (text : String) (next : Progress Unit → Job) : Job :=
        progress.put (reverseRecords call mark (arguments.has 'b') text) next
      let rec go (progress : Progress Unit) : List String → Job
        | [] => progress.finish call
        | name :: rest =>
          let title := if name = "-" then "standard input" else name
          let refuse (text : String) : Job :=
            { progress with failed := true }.warn call text fun progress => go progress rest
          let take (text : Except SystemFault String) : Job :=
            match text with
            | .ok text => turn progress text fun progress => go progress rest
            | .error fault =>
              { progress with
                failed := true
                lacksInput := progress.lacksInput || (name == "-" && fault == SystemFault.badDescriptor) }.warn
                call (call.quoteTitle title ++ ": read error: " ++ fault.message)
                fun progress => go progress rest
          if name = "-" then Job.slurp 0 take
          else
            .open name { reads := true } fun opened =>
              match opened with
              | .error fault =>
                refuse ("failed to open " ++ call.quoteName name ++ " for reading: " ++ fault.message)
              | .ok descriptor =>
                Job.slurp descriptor fun text => .close descriptor (take text)
      go { state := () } (if arguments.operands.isEmpty then ["-"] else arguments.operands)
    if arguments.has 'r' then
      if given = "" then Job.fail call "separator cannot be empty"
      else
        match Regex.parse .plainLines (call.glyphs given.toList) with
        | .error fault => Job.fail call fault.message
        | .ok { regex, .. } => run (.matching regex)
    else run (.text (if given = "" then "\x00" else given))

/-! ### Lines -/

/-- The program `rev`. -/
def rev : Utility := fun call =>
  ({ letters := "0", names := [("zero", '0')] } :
    Accepted).read call 1 fun arguments =>
      let mark := if arguments.has '0' then '\x00' else '\n'
      let filter : Filter (Unit × String) := .ofLine mark fun line =>
        let turned := String.ofList (call.ofGlyphs (call.glyphs line.text.toList).reverse)
        if line.ended then turned.push mark else turned
      -- A dash is a name like any other.
      let names := arguments.operands.map fun name => if name = "-" then "./-" else name
      let refuse (name : String) (fault : SystemFault) : String :=
        "cannot open " ++ (if name = "./-" then "-" else name) ++ ": " ++ fault.message
      Filter.pass call filter ((), "") names refuse

end Utility

end ArtifactLens.Shell
