import ArtifactLens.Proofs.Session.Cache
import ArtifactLens.Proofs.Session.Notes

/-!
# Artifacts that stay up to date

An artifact that was compiled with success is not built again for the same extra arguments while
its file, its source and the database are left alone (`Chronicle.compile_settled`): as long as the
database is not loaded again, its record keeps the extra arguments of its last build, and that is
all of the record that may change.

So it does matter what is built in between. A build with other extra arguments is remembered even
if it leaves the file of the artifact as it was, and then the artifact is built again for the old
arguments (`Chronicle.compile_unsettled`).
-/

namespace ArtifactLens

variable {σ : Type}

/-! ### Files that are not newer -/

/-- A file that was not modified after a moment is not newer. -/
theorem FileSystem.isNewer_eq_false {host : Host} {fs : FileSystem} {path : Path}
    {reference : Reference} {moment : Instant} (h : fs.moment? host reference = some moment)
    (bound : ∀ modified, fs.modified? host path = some modified → modified ≤ moment) :
    fs.isNewer host path reference = false := by
  rw [isNewer, h]
  cases hmodified : fs.modified? host path with
  | none => rfl
  | some modified => exact decide_eq_false (Rat.not_lt.mpr (bound modified hmodified))

/-- An artifact needs no build if it has the extra arguments and neither the source, which is
there, nor the database is newer. -/
theorem BuildRecord.needsBuild_eq_false {host : Host} {fs : FileSystem} {record : BuildRecord}
    {database : Path} {built changed : Instant}
    (hbuilt : fs.modified? host record.artifact = some built)
    (hchanged : fs.modified? host record.source = some changed) (source : changed ≤ built)
    (hdatabase : ∀ written, fs.modified? host database = some written → written ≤ built) :
    record.needsBuild host fs record.lastExtraArgs database = false := by
  have hsource : fs.isNewer host record.source (.file record.artifact) = false := by
    refine FileSystem.isNewer_eq_false hbuilt fun modified hmodified => ?_
    rw [hchanged, Option.some.injEq] at hmodified
    exact hmodified ▸ source
  have hnewer : fs.isNewer host database (.file record.artifact) = false :=
    FileSystem.isNewer_eq_false hbuilt hdatabase
  rw [needsBuild, if_neg (not_not_intro rfl), hchanged, if_neg (Option.some_ne_none _), hsource,
    hnewer, Bool.or_false]

/-! ### Files that are left alone -/

/-- What paths lead to is left alone. -/
def History.Untouched (paths : List Path) (history next : History σ) : Prop :=
  ∀ path ∈ paths, next.world.files.node? next.world.host path =
    history.world.files.node? history.world.host path

namespace History.Untouched

variable {paths : List Path} {history next : History σ}

theorem refl (paths : List Path) (history : History σ) : history.Untouched paths history :=
  fun _ _ => rfl

theorem trans {last : History σ} (h : history.Untouched paths next)
    (later : next.Untouched paths last) : history.Untouched paths last :=
  fun path hpath => (later path hpath).trans (h path hpath)

theorem of_files (files : next.world.files = history.world.files)
    (host : next.world.host = history.world.host) : history.Untouched paths next := by
  intro path _
  rw [files, host]

theorem modified? (h : history.Untouched paths next) {path : Path} (hpath : path ∈ paths) :
    next.world.files.modified? next.world.host path =
      history.world.files.modified? history.world.host path := by
  rw [FileSystem.modified?_eq, h path hpath, ← FileSystem.modified?_eq]

/-- Whether the database may have changed depends on its file and on the stamp only. -/
theorem isOutdated (h : history.Untouched paths next)
    (database : next.session.database = history.session.database)
    (stamp : next.session.loadedAt = history.session.loadedAt)
    (hpath : history.session.database ∈ paths) :
    next.session.isOutdated next.world = history.session.isOutdated history.world := by
  rw [Session.isOutdated, Session.isOutdated, stamp, database]
  cases history.session.loadedAt with
  | none => rfl
  | some moment =>
    dsimp only
    rw [FileSystem.isNewer, FileSystem.isNewer, h.modified? hpath]
    rfl

/-- Whether an artifact needs a build depends on its record and on the three files only. -/
theorem needsBuild (h : history.Untouched paths next) {record : BuildRecord} {database : Path}
    (source : record.source ∈ paths) (artifact : record.artifact ∈ paths)
    (hdatabase : database ∈ paths) (extraArgs : List String) :
    record.needsBuild next.world.host next.world.files extraArgs database =
      record.needsBuild history.world.host history.world.files extraArgs database := by
  simp only [BuildRecord.needsBuild, FileSystem.isNewer, FileSystem.moment?, h.modified? source,
    h.modified? artifact, h.modified? hdatabase]

end History.Untouched

/-- Nothing happens if the database is not outdated. -/
theorem Session.refresh_of_current {session : Session} {world : World σ}
    (current : session.isOutdated world = false) :
    session.refresh world = (.ok (), session, world) := by
  rw [refresh, current]
  rfl

namespace History

theorem refreshed_of_current {history : History σ}
    (current : history.session.isOutdated history.world = false) :
    history.refreshed = history := by
  rw [refreshed, Session.refresh_of_current current, current]
  rfl

/-- What was compiled with success has a record that keeps the extra arguments in effect. -/
theorem record_of_success {tools : Toolchain σ} {history : History σ}
    (coherent : history.Coherent) {artifact : Path} {result : BuildResult}
    (answer : (history.session.compile tools artifact history.world).1 = .ok result)
    (success : result.success = true) :
    ∃ record,
      (history.act tools (.compile artifact)).session.registry.recordFor artifact = some record ∧
        record.lastExtraArgs = history.session.extraArgs := by
  have hcompilation := history.compilation tools coherent artifact
  rw [← history.extraArgs_refreshed]
  generalize (history.session.compile tools artifact history.world).1 = outcome
    at hcompilation answer
  generalize (history.act tools (.compile artifact)).session = next at hcompilation ⊢
  generalize history.builds tools artifact = built at hcompilation
  generalize (history.act tools (.compile artifact)).world.trace = trace at hcompilation
  cases hcompilation with
  | refused | abandoned => cases answer
  | upToDate record found fresh =>
    exact ⟨record, found, (BuildRecord.of_needsBuild_eq_false fresh).1.symm⟩
  | failed record found stale outcome code =>
    obtain rfl := Except.ok.inj answer
    exact absurd (beq_iff_eq.mp success) code
  | built record found =>
    rw [Session.recordFor_afterBuild coherent.refreshed, if_pos rfl, found]
    exact ⟨_, rfl, rfl⟩

end History

namespace Chronicle

/-! ### What is up to date stays so -/

/-- The database is not loaded again, and of a record nothing but its extra arguments changes, which
are those of the last build that was noted. -/
structure Settled (first : History σ) (artifact : Path) (record : BuildRecord)
    (later : Chronicle σ) : Prop where
  coherent : later.history.Coherent
  database : later.history.session.database = first.session.database
  stamp : later.history.session.loadedAt = first.session.loadedAt
  untouched : first.Untouched [record.source, first.session.database, artifact] later.history
  recorded : later.history.session.registry.recordFor artifact =
    some { record with
      lastExtraArgs := (lastArgs? artifact later.notes).getD record.lastExtraArgs }

namespace Settled

variable {tools : Toolchain σ} {first : History σ} {artifact : Path} {record : BuildRecord}
  {later : Chronicle σ}

theorem start (coherent : first.Coherent)
    (found : first.session.registry.recordFor artifact = some record) :
    Settled first artifact record ⟨first, []⟩ where
  coherent := coherent
  database := rfl
  stamp := rfl
  untouched := .refl _ first
  recorded := found

theorem isOutdated (h : Settled first artifact record later) :
    later.history.session.isOutdated later.history.world = first.session.isOutdated first.world :=
  h.untouched.isOutdated h.database h.stamp (by simp)

theorem act (h : Settled first artifact record later)
    (current : first.session.isOutdated first.world = false) {op : Session.Op}
    (allowed : op ≠ .load)
    (untouched : later.history.Untouched [record.source, first.session.database, artifact]
      (later.act tools op).history) : Settled first artifact record (later.act tools op) := by
  by_cases refreshes : op.refreshes = true
  · have hcurrent := h.isOutdated.trans current
    have hsession : (later.act tools op).history.session =
        later.history.session.afterBuild (later.history.built? tools op) := by
      rw [Chronicle.act, History.session_act tools h.coherent refreshes,
        History.refreshed_of_current hcurrent]
    have hnotes : (later.act tools op).notes =
        ((later.history.built? tools op).map
          (.built · later.history.session.extraArgs)).toList ++ later.notes := by
      rw [notes_act tools later refreshes, hcurrent]
      rfl
    refine ⟨h.coherent.act op, ?_, ?_, h.untouched.trans untouched, ?_⟩
    · rw [hsession, Session.database_afterBuild, h.database]
    · rw [hsession, Session.loadedAt_afterBuild, h.stamp]
    · rw [hsession, Session.recordFor_afterBuild h.coherent, hnotes, lastArgs?_built, h.recorded]
      split_ifs <;> rfl
  · cases op with
    | load => exact absurd rfl allowed
    | setExtraArgs =>
      exact ⟨h.coherent, h.database, h.stamp, h.untouched.trans untouched, h.recorded⟩
    | _ => exact absurd rfl refreshes

theorem step (h : Settled first artifact record later)
    (current : first.session.isOutdated first.world = false) {next : Chronicle σ}
    (step : Step tools (· ≠ .load) later next)
    (untouched : later.history.Untouched [record.source, first.session.database, artifact]
      next.history) : Settled first artifact record next := by
  cases step with
  | act op allowed => exact h.act current allowed untouched
  | outside world host trace =>
    refine ⟨?_, h.database, h.stamp, h.untouched.trans untouched, h.recorded⟩
    rw [History.Coherent, host]
    exact h.coherent

end Settled

/-- **What was compiled with success is not built again.** Let a compilation be answered with
success, with the source there and neither the source nor the database modified after the artifact,
and the database not after the stamp of the last load. While no load is asked for and the three
files are left alone, a compilation for the same extra arguments finds the artifact up to date and
runs nothing, if the last build of the artifact since then, if any, had these extra arguments. -/
theorem compile_settled {tools : Toolchain σ} {Discipline : History σ → History σ → Prop}
    {places : Settings.Places} {world : World σ} {history : History σ}
    (run : History.Run tools Discipline (.start places world) history) {artifact : Path}
    {result : BuildResult}
    (answer : (history.session.compile tools artifact history.world).1 = .ok result)
    (success : result.success = true) :
    let first := history.act tools (.compile artifact)
    let host := first.world.host
    let files := first.world.files
    let extraArgs := history.session.extraArgs
    ∃ record, first.session.registry.recordFor artifact = some record ∧
      ∀ built changed stamp, files.modified? host artifact = some built →
        files.modified? host record.source = some changed → changed ≤ built →
        first.session.loadedAt = some stamp →
        (∀ written, files.modified? host places.database = some written →
          written ≤ built ∧ written ≤ stamp) →
        ∀ later, Run tools (· ≠ .load)
            (History.Untouched [record.source, places.database, artifact]) ⟨first, []⟩ later →
          later.history.session.extraArgs = extraArgs →
          lastArgs? artifact later.notes = none ∨
            lastArgs? artifact later.notes = some extraArgs →
          later.history.session.compile tools artifact later.history.world =
            (.ok .upToDate, later.history.session, later.history.world) := by
  intro first host files extraArgs
  have mirror : first.Mirror places := (History.Run.mirror run).act (.compile artifact)
  obtain ⟨record, found, kept⟩ :=
    History.record_of_success (History.Run.mirror run).coherent answer success
  refine ⟨record, found, fun built changed stamp hbuilt hchanged hsource hstamp hdatabase later
    continuation hargs hlast => ?_⟩
  obtain rfl : record.artifact = artifact := Registry.Coherent.artifact_eq mirror.coherent found
  rw [← mirror.database] at hdatabase continuation
  have current : first.session.isOutdated first.world = false := by
    rw [Session.isOutdated, hstamp]
    exact FileSystem.isNewer_eq_false rfl fun written hwritten => (hdatabase written hwritten).2
  have settled : Settled first record.artifact record later := by
    clear hargs hlast
    induction continuation with
    | refl => exact .start mirror.coherent found
    | tail _ step ih => exact ih.step current step.1 step.2
  have hkept : (lastArgs? record.artifact later.notes).getD record.lastExtraArgs = extraArgs := by
    obtain hnone | hsome := hlast
    · rw [hnone]
      exact kept
    · rw [hsome]
      rfl
  have recorded := settled.recorded
  rw [hkept] at recorded
  refine Session.compile_of_fresh tools
    (Session.refresh_of_current (settled.isOutdated.trans current)) recorded ?_
  rw [hargs, settled.database, settled.untouched.needsBuild (by simp) (by simp) (by simp)]
  let remembered : BuildRecord := { record with lastExtraArgs := extraArgs }
  have fresh : remembered.needsBuild host files remembered.lastExtraArgs first.session.database =
      false :=
    BuildRecord.needsBuild_eq_false hbuilt hchanged hsource
      fun written hwritten => (hdatabase written hwritten).1
  exact fresh

end Chronicle

/-! ### The small project -/

namespace Sample

/-- The listing was built. -/
def listed : History Unit := (History.start places newWorld).act tools (.compile artifact)

/-- Then it was built with an extra argument, which left it as it was. -/
def relisted : Chronicle Unit :=
  ((Chronicle.act tools (.setExtraArgs ["-O"]) ⟨listed, []⟩).act tools (.compile artifact)).act
    tools (.setExtraArgs [])

/-- The record of the listing. -/
def record : BuildRecord where
  artifact
  source := ⟨.root, [⟨"a", by decide⟩]⟩
  kind := .disassembly
  command := listing "c"
  directory := ⟨.root, []⟩

/-- The first build answers, and leaves a record in the session that the load has filled. -/
private theorem listed_spec :
    ((History.start places newWorld).session.compile tools artifact newWorld).1 =
        .ok { success := true, command := listing "c" } ∧
      listed.session.registry.recordFor artifact = some record ∧
      listed.session.loadedAt = some 1500 := by
  decide +kernel

/-- Both builds leave the same files. -/
private theorem files_builds :
    listed.world.files = built "c" 1000 ∧ relisted.history.world.files = built "c" 1000 := by
  have again :
      ((listed.act tools (.setExtraArgs ["-O"])).act tools (.compile artifact)).world.files =
        built "c" 1000 := files_compile (by decide +kernel)
  exact ⟨files_compile (by decide +kernel), again⟩

private theorem run_relisted (paths : List Path) :
    Chronicle.Run tools (· ≠ .load) (History.Untouched paths) ⟨listed, []⟩ relisted := by
  obtain ⟨once, again⟩ := files_builds
  have set : listed.Untouched paths (listed.act tools (.setExtraArgs ["-O"])) := .of_files rfl rfl
  have compile : (listed.act tools (.setExtraArgs ["-O"])).Untouched paths
      ((listed.act tools (.setExtraArgs ["-O"])).act tools (.compile artifact)) :=
    .of_files (again.trans once.symm) (History.Step.host (.act _))
  have reset : ((listed.act tools (.setExtraArgs ["-O"])).act tools (.compile artifact)).Untouched
      paths relisted.history := .of_files rfl rfl
  refine ((Relation.ReflTransGen.single ⟨.act _ ?_, set⟩).tail ⟨.act _ ?_, compile⟩).tail
    ⟨.act _ ?_, reset⟩
  all_goals exact fun h => nomatch h

private theorem modified?_listed :
    listed.world.files.modified? listed.world.host artifact = some 2000 ∧
      listed.world.files.modified? listed.world.host record.source = some 1000 ∧
      listed.world.files.modified? listed.world.host places.database = some 1000 := by
  have hhost : listed.world.host = host := History.Step.host (.act _)
  rw [files_builds.1, hhost]
  refine ⟨modified?_listing "c" 1000, ?_, ?_⟩ <;>
  · rw [FileSystem.modified?, FileSystem.inspect]
    rfl

end Sample

namespace Chronicle

open Sample in
/-- In the small project, the listing is built, then again with an extra argument and once more
without, and then it is up to date. -/
theorem compile_settled_listing :
    let last := relisted.act tools (.compile artifact)
    (last.history.session.compile tools artifact last.history.world).1 = .ok .upToDate := by
  intro last
  obtain ⟨answer, recorded, loaded⟩ := listed_spec
  obtain ⟨-, again⟩ := files_builds
  obtain ⟨hbuilt, hchanged, hwritten⟩ := modified?_listed
  obtain ⟨found, hfound, settled⟩ :=
    compile_settled (.refl : History.Run tools (fun _ _ => True) (.start places newWorld) _)
      answer rfl
  rw [← listed, recorded, Option.some.injEq] at hfound
  subst hfound
  have compile : relisted.history.Untouched [record.source, places.database, artifact]
      last.history :=
    .of_files ((files_compile (by decide +kernel)).trans again.symm)
      (History.Step.host (.act _))
  have notLater : (1000 : Instant) ≤ 2000 ∧ (1000 : Instant) ≤ 1500 := by decide +kernel
  have upToDate := settled 2000 1000 1500 hbuilt hchanged notLater.1 loaded
    (fun written h => Option.some.inj (hwritten.symm.trans h) ▸ notLater) last
    ((run_relisted _).tail ⟨.act _ (fun h => nomatch h), compile⟩) (by decide +kernel)
    (.inr (by decide +kernel))
  rw [upToDate]

open Sample in
/-- **A build with other arguments is remembered even if it changes nothing on disk.** In the small
project, the listing was built with success and nothing is newer; after a build with an extra
argument that left its file as it was, it is built again for the old arguments. -/
theorem compile_unsettled :
    (∃ result, ((History.start places newWorld).session.compile tools artifact newWorld).1 =
      .ok result ∧ result.success = true) ∧
    listed.session.registry.recordFor artifact = some record ∧
    listed.world.files.modified? listed.world.host artifact = some 2000 ∧
    listed.world.files.modified? listed.world.host record.source = some 1000 ∧
    listed.world.files.modified? listed.world.host places.database = some 1000 ∧
    listed.session.loadedAt = some 1500 ∧
    ¬∀ later, Run tools (· ≠ .load)
        (History.Untouched [record.source, places.database, artifact]) ⟨listed, []⟩ later →
      later.history.session.extraArgs = (History.start places newWorld).session.extraArgs →
      (later.history.session.compile tools artifact later.history.world).1 = .ok .upToDate ∧
        (later.history.act tools (.compile artifact)).world.trace = later.history.world.trace := by
  obtain ⟨answer, recorded, loaded⟩ := listed_spec
  obtain ⟨hbuilt, hchanged, hwritten⟩ := modified?_listed
  refine ⟨⟨_, answer, rfl⟩, recorded, hbuilt, hchanged, hwritten, loaded, fun settled => ?_⟩
  have upToDate := (settled relisted (run_relisted _) rfl).1
  have rebuilt : (relisted.history.session.compile tools artifact relisted.history.world).1 ≠
      .ok .upToDate := by decide +kernel
  exact rebuilt upToDate

end Chronicle

end ArtifactLens
