import ArtifactLens.External
import ArtifactLens.Proofs.FileSystem.Writes
import ArtifactLens.Proofs.Session.Settled
import ArtifactLens.Proofs.Text

/-!
# What external programs may do

A command or a filter may fail to start, end with any exit code, write anything and run out of time.
**The process layer contains all of it, unless a program writes what is no text or the words of the
filter hold a null character** (`External.contained_iff`):

* A command that is run has an outcome if and only if all that it has written is text
  (`Course.exists_outcome_iff`); this holds of commands that never started, and it is asked of those
  that ran out of time.
* Demangling gives up if and only if the filter chokes on an artifact that can be read
  (`External.demangle_eq_ok_iff`).
* The artifact holds what the filter has written, with newlines for all ends of lines, if the filter
  ends with success and all that it has written is text (`External.demangle_of_replaces`). Without
  carriage returns this is what was written, octet for octet. In every other case nothing changes,
  not even if demangling gives up (`External.demangle_of_not_replaces`).
* A build has a result if and only if neither its command nor the filter that is called after a
  success gives up (`External.exists_execute_iff`).

One octet that starts no character is enough for a build to end without a result
(`External.escapes_garbled`).
-/

namespace ArtifactLens

variable {σ : Type}

/-! ### Courses -/

namespace Course

variable {course : Course} {output stdout stderr : Octets}

/-- All that the program has written is text. -/
def IsText : Course → Prop
  | .refused _ => True
  | .finished _ stdout stderr | .expired stdout stderr => Utf8.IsText stdout ∧ Utf8.IsText stderr

/-- The program ended with success. -/
def Succeeds (course : Course) : Prop := ∃ stdout stderr, course = .finished 0 stdout stderr

/-- A filter that makes demangling give up: its words cannot be handed over, or it ended and has
written what is no text. -/
inductive Chokes : Course → Prop
  | nullCharacter : Chokes (.refused .nullCharacter)
  | garbled (exitCode : Int) (stdout stderr : Octets)
      (noText : ¬(Utf8.IsText stdout ∧ Utf8.IsText stderr)) :
      Chokes (.finished exitCode stdout stderr)

theorem text_eq_ok_iff {text : String} : Course.text output = .ok text ↔
    ∃ read, Utf8.decode output = .ok read ∧ String.ofList (Lines.normalize read) = text := by
  rw [Course.text]
  cases Utf8.decode output <;> simp

theorem exists_text_iff : (∃ text, Course.text output = .ok text) ↔ Utf8.IsText output := by
  rw [Course.text, Utf8.IsText]
  cases Utf8.decode output <;> simp

/-- A build has an outcome, unless its command has written what is no text. -/
theorem exists_outcome_iff (course : Course) (limit : String) :
    (∃ outcome, course.outcome limit = .ok outcome) ↔ course.IsText := by
  cases course with
  | refused fault => exact iff_of_true ⟨_, rfl⟩ trivial
  | finished exitCode stdout stderr | expired stdout stderr =>
    rw [outcome, IsText, ← exists_text_iff, ← exists_text_iff]
    cases Course.text stdout <;> cases Course.text stderr <;> simp

/-- A build succeeds if its command does. -/
theorem exitCode_outcome {limit : String} {outcome : ProcessOutcome}
    (h : course.outcome limit = .ok outcome) : outcome.exitCode = some 0 ↔ course.Succeeds := by
  cases course with
  | refused fault =>
    obtain rfl := Except.ok.inj h
    exact iff_of_false nofun nofun
  | finished exitCode stdout stderr | expired stdout stderr =>
    rw [Course.outcome] at h
    split at h
    · obtain rfl := Except.ok.inj h
      simp [Succeeds]
    · cases h
    · cases h

/-- A filter has a result, be it that nothing changes, unless it chokes. -/
theorem exists_filtered_iff (course : Course) :
    (∃ text?, course.filtered = .ok text?) ↔ ¬course.Chokes := by
  cases course with
  | refused fault =>
    cases fault with
    | nullCharacter => exact iff_of_false nofun (not_not_intro .nullCharacter)
    | system number wording subject => exact iff_of_true ⟨none, rfl⟩ nofun
  | finished exitCode stdout stderr =>
    have chokes : Chokes (.finished exitCode stdout stderr) ↔
        ¬(Utf8.IsText stdout ∧ Utf8.IsText stderr) :=
      ⟨fun h => match h with | .garbled _ _ _ noText => noText, .garbled exitCode stdout stderr⟩
    rw [filtered, chokes, not_not, ← exists_text_iff, ← exists_text_iff]
    cases Course.text stdout <;> cases Course.text stderr <;> simp
  | expired stdout stderr => exact iff_of_true ⟨none, rfl⟩ nofun

/-- A filter puts a text in place of an artifact if it succeeds and all that it has written is
text. -/
theorem filtered_eq_some_iff {text : String} : course.filtered = .ok (some text) ↔
    ∃ stdout stderr, course = .finished 0 stdout stderr ∧ Utf8.IsText stderr ∧
      ∃ read, Utf8.decode stdout = .ok read ∧ String.ofList (Lines.normalize read) = text := by
  cases course with
  | refused fault =>
    refine iff_of_false ?_ nofun
    cases fault <;> nofun
  | expired stdout stderr => exact iff_of_false nofun nofun
  | finished exitCode stdout stderr =>
    simp only [← text_eq_ok_iff, ← exists_text_iff, filtered, finished.injEq]
    cases hout : Course.text stdout <;> cases herr : Course.text stderr <;> simp [hout, herr]

end Course

/-! ### Artifacts -/

namespace External

variable {programs : External σ} {host : Host} {artifact : Path} {files : FileSystem}
  {stdout : Octets}

/-- The artifact can be read, and the filter chokes on it. -/
def Chokes (programs : External σ) (host : Host) (artifact : Path) (files : FileSystem) : Prop :=
  ∃ content, files.read host artifact = .ok content ∧ (programs.filter (input content)).Chokes

/-- The artifact can be read, and the filter ends on it with success and with an output, and all
that it has written is text. -/
def Replaces (programs : External σ) (host : Host) (artifact : Path) (files : FileSystem)
    (stdout : Octets) : Prop :=
  ∃ content stderr, files.read host artifact = .ok content ∧
    programs.filter (input content) = .finished 0 stdout stderr ∧
    Utf8.IsText stdout ∧ Utf8.IsText stderr

/-- Demangling gives up if and only if the filter chokes on the artifact. -/
theorem demangle_eq_ok_iff :
    (programs.demangle host artifact files).1 = .ok () ↔ ¬programs.Chokes host artifact files := by
  rw [Chokes, demangle]
  cases found : files.read host artifact with
  | error fault => simp
  | ok content =>
    simp only [Except.ok.injEq, exists_eq_left', ← Course.exists_filtered_iff]
    match (programs.filter (input content)).filtered with
    | .error failure | .ok none | .ok (some text) => simp

/-- An artifact that a filter replaces holds what the filter has written, with newlines for all ends
of lines, and nothing else is written. -/
theorem demangle_of_replaces (h : programs.Replaces host artifact files stdout) :
    ∃ text, Utf8.decode stdout = .ok text ∧
      (programs.demangle host artifact files).2 = files.write host artifact
        (Utf8.encode (String.ofList (Lines.normalize text))) programs.moment ∧
      (programs.demangle host artifact files).2.read host artifact =
        .ok (Utf8.encode (String.ofList (Lines.normalize text))) := by
  obtain ⟨content, stderr, found, ended, ⟨text, decoded⟩, complaints⟩ := h
  have filtered := Course.filtered_eq_some_iff.mpr
    ⟨stdout, stderr, ended, complaints, text, decoded, rfl⟩
  have written : (programs.demangle host artifact files).2 = files.write host artifact
      (Utf8.encode (String.ofList (Lines.normalize text))) programs.moment := by
    rw [demangle, found]
    dsimp only
    rw [filtered]
    rfl
  -- what could be read is a file on a clear way, and so is what is written in its place
  have clear := (FileSystem.isFile_of_content (FileSystem.content?_eq_some_iff.mpr found)).1
  obtain ⟨cleared, hat⟩ := clear.write_self
    (Utf8.encode (String.ofList (Lines.normalize text))) programs.moment
  exact ⟨text, decoded, written, written ▸ cleared.read_of_file hat⟩

/-- Nothing changes when the filter does not replace the artifact. -/
theorem demangle_of_not_replaces (h : ∀ stdout, ¬programs.Replaces host artifact files stdout) :
    (programs.demangle host artifact files).2 = files := by
  rw [demangle]
  cases found : files.read host artifact with
  | error fault => rfl
  | ok content =>
    dsimp only
    match filtered : (programs.filter (input content)).filtered with
    | .error failure | .ok none => rfl
    | .ok (some text) =>
      obtain ⟨stdout, stderr, ended, complaints, read, decoded, -⟩ :=
        Course.filtered_eq_some_iff.mp filtered
      exact absurd ⟨content, stderr, found, ended, ⟨read, decoded⟩, complaints⟩ (h stdout)

/-- Without carriage returns, it is there octet for octet. -/
theorem read_of_replaces_of_not_mem (h : programs.Replaces host artifact files stdout)
    (free : 0x0d ∉ stdout) :
    (programs.demangle host artifact files).2.read host artifact = .ok stdout := by
  obtain ⟨text, decoded, -, read⟩ := demangle_of_replaces h
  rw [read, Lines.normalize_eq (Utf8.carriageReturn_of_decode decoded free),
    Utf8.encode_of_decode decoded]

end External

/-! ### Builds -/

/-- A build has a result if and only if its command has an outcome and the demangling after a
success does not give up. -/
theorem Toolchain.exists_execute_iff (tools : Toolchain σ) (record : BuildRecord)
    (extraArgs : List String) (world : World σ) :
    let ended :=
      tools.run (record.commandWith extraArgs) record.directory world.files world.tools
    (∃ result, (tools.execute record extraArgs world).1 = .ok result) ↔
      ∃ outcome, ended.1 = .ok outcome ∧
        (outcome.exitCode = some 0 → (tools.demangle record.artifact ended.2.1).1 = .ok ()) := by
  intro ended
  have hexecuted := tools.executed record extraArgs world
  generalize tools.execute record extraArgs world = step at hexecuted
  cases hexecuted with
  | abandoned failure files state run =>
    have ran : ended = _ := run
    rw [ran]
    exact iff_of_false nofun nofun
  | failed outcome files state run code =>
    have ran : ended = _ := run
    rw [ran]
    exact iff_of_true ⟨_, rfl⟩ ⟨outcome, rfl, fun succeeds => absurd succeeds code⟩
  | undemangled outcome files state failure later run code demangle =>
    have ran : ended = _ := run
    rw [ran]
    refine iff_of_false nofun ?_
    rintro ⟨_, same, passes⟩
    obtain rfl := Except.ok.inj same
    have passed := passes code
    rw [demangle] at passed
    cases passed
  | built outcome files state later run code demangle =>
    have ran : ended = _ := run
    rw [ran]
    exact iff_of_true ⟨_, rfl⟩ ⟨outcome, rfl, fun _ => congrArg Prod.fst demangle⟩

namespace External

/-- A build has a result if and only if its command writes text and, after a success, the filter
does not choke on the artifact. -/
theorem exists_execute_iff (programs : External σ) (record : BuildRecord)
    (extraArgs : List String) (world : World σ) :
    let ended :=
      programs.shell (record.commandWith extraArgs) record.directory world.files world.tools
    (∃ result, ((programs.toolchain world.host).execute record extraArgs world).1 = .ok result) ↔
      ended.1.IsText ∧
        (ended.1.Succeeds → ¬programs.Chokes world.host record.artifact ended.2.1) := by
  intro ended
  refine ((programs.toolchain world.host).exists_execute_iff record extraArgs world).trans ?_
  constructor
  · rintro ⟨outcome, hcourse, passes⟩
    refine ⟨(Course.exists_outcome_iff _ programs.limit).mp ⟨outcome, hcourse⟩, fun succeeds => ?_⟩
    exact demangle_eq_ok_iff.mp (passes ((Course.exitCode_outcome hcourse).mpr succeeds))
  · rintro ⟨isText, passes⟩
    obtain ⟨outcome, hcourse⟩ := (Course.exists_outcome_iff _ programs.limit).mpr isText
    refine ⟨outcome, hcourse, fun code => ?_⟩
    exact demangle_eq_ok_iff.mpr (passes ((Course.exitCode_outcome hcourse).mp code))

/-- **The process layer contains what programs do, unless they write what is no text** or the words
of the filter cannot be handed over. An artifact is replaced by the output of a filter or left
alone in every case. -/
theorem contained_iff (programs : External σ) (world : World σ) (command : String)
    (directory artifact : Path) (record : BuildRecord) (extraArgs : List String) :
    let tools := programs.toolchain world.host
    let demangled := tools.demangle artifact world.files
    let built :=
      programs.shell (record.commandWith extraArgs) record.directory world.files world.tools
    ((∃ outcome, (tools.run command directory world.files world.tools).1 = .ok outcome) ↔
        (programs.shell command directory world.files world.tools).1.IsText) ∧
      (demangled.1 = .ok () ↔ ¬programs.Chokes world.host artifact world.files) ∧
      (∀ stdout, programs.Replaces world.host artifact world.files stdout → ∃ text,
        Utf8.decode stdout = .ok text ∧
          demangled.2 = world.files.write world.host artifact
            (Utf8.encode (String.ofList (Lines.normalize text))) programs.moment ∧
          demangled.2.read world.host artifact =
            .ok (Utf8.encode (String.ofList (Lines.normalize text))) ∧
          (0x0d ∉ stdout → demangled.2.read world.host artifact = .ok stdout)) ∧
      ((∀ stdout, ¬programs.Replaces world.host artifact world.files stdout) →
        demangled.2 = world.files) ∧
      ((∃ result, (tools.execute record extraArgs world).1 = .ok result) ↔
        built.1.IsText ∧
          (built.1.Succeeds → ¬programs.Chokes world.host record.artifact built.2.1)) := by
  refine ⟨Course.exists_outcome_iff _ _, demangle_eq_ok_iff, fun stdout replaces => ?_,
    demangle_of_not_replaces, exists_execute_iff programs record extraArgs world⟩
  obtain ⟨text, decoded, written, read⟩ := demangle_of_replaces replaces
  exact ⟨text, decoded, written, read, read_of_replaces_of_not_mem replaces⟩

end External

/-! ### Programs that succeed -/

namespace Sample

/-- Programs that always succeed: builds write one output, and the filter writes another. -/
def writers (built filtered : Octets) : External Unit where
  shell _ _ files state := (.finished 0 built [], files, state)
  filter _ := .finished 0 filtered []
  limit := "None"
  moment := 3000

/-- The listing was built, and holds nothing. -/
def builtWorld : World Unit := ⟨host, built "c" 1000, 1500, (), []⟩

private theorem read_builtWorld : builtWorld.files.read host artifact = .ok [] := by decide +kernel

private theorem isText_word : Utf8.IsText [0x62] := ⟨['b'], by decide +kernel⟩

private theorem isText_nil : Utf8.IsText [] := ⟨[], by decide +kernel⟩

end Sample

namespace External

open Sample in
/-- A filter that writes a word puts it in place of the listing, and a build has a result. -/
theorem contained_iff_listing :
    let programs := writers [] [0x62]
    programs.Replaces host artifact builtWorld.files [0x62] ∧
      (programs.demangle host artifact builtWorld.files).2.read host artifact = .ok [0x62] ∧
      ∃ result, ((programs.toolchain host).execute record [] builtWorld).1 = .ok result := by
  intro programs
  have replaces : programs.Replaces host artifact builtWorld.files [0x62] :=
    ⟨[], [], read_builtWorld, rfl, isText_word, isText_nil⟩
  have passes : ¬programs.Chokes host artifact builtWorld.files := by
    rintro ⟨content, -, chokes⟩
    cases chokes with
    | garbled _ _ _ noText => exact noText ⟨isText_word, isText_nil⟩
  obtain ⟨-, -, holds, -, builds⟩ :=
    contained_iff programs builtWorld "c" ⟨.root, []⟩ artifact record []
  obtain ⟨text, -, -, -, exact⟩ := holds [0x62] replaces
  exact ⟨replaces, exact (by decide), builds.mpr ⟨⟨isText_nil, isText_nil⟩, fun _ => passes⟩⟩

open Sample in
/-- **What is no text escapes.** If a build or a filter succeeds and has written the octet `0xff`,
the run or the demangling gives up, and with either the build. -/
theorem escapes_garbled :
    let failure := Failure.undecodable ⟨0, [0xff], .invalidStart⟩
    (((writers [0xff] []).toolchain host).run "c" ⟨.root, []⟩ builtWorld.files ()).1 =
        .error failure ∧
      (((writers [] [0xff]).toolchain host).demangle artifact builtWorld.files).1 =
        .error failure ∧
      (((writers [0xff] []).toolchain host).execute record [] builtWorld).1 = .error failure ∧
      (((writers [] [0xff]).toolchain host).execute record [] builtWorld).1 = .error failure := by
  decide +kernel

end External

end ArtifactLens
