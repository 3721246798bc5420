import ArtifactLens.Proofs.Session.Cases
import Mathlib.Logic.Relation

/-!
# Runs of a session

A run takes operations of a session in any order, and between them others may change the world.
A `History` is the state of a run: the session, its world, and every attempt to load the database
so far. Histories refer to the attempts to say how old the content of a registry is.

* **Operations** (`Session.Op`) are what a session offers; those that refresh look at the database
  first.
* **Steps** (`History.Step`) perform an operation or change the world: its files, its clock and the
  state of its tools, but neither the host nor the trace, which is the work of the session.
* **Runs** (`History.Run`) are sequences of steps that all keep a discipline, such as that files
  are never written back in time.
* **Cases**: an operation loads, refreshes, sets arguments, or refreshes and then executes a record
  (`History.acted`), and a refresh in turn loads or does nothing (`History.refreshed_cases`).
-/

namespace ArtifactLens

variable {σ : Type}

/-- What a session may be asked to do. -/
inductive Session.Op where
  | load
  | refresh
  | artifactFor (source : Path) (kind : Kind)
  | sourceFor (artifact : Path)
  | recordFor (artifact : Path)
  | records
  | setExtraArgs (extraArgs : List String)
  | compile (artifact : Path)

namespace Session.Op

/-- What an operation makes of a session and its world. -/
def perform (tools : Toolchain σ) (session : Session) (world : World σ) :
    Op → Session × World σ
  | load => (session.load world).2
  | refresh => (session.refresh world).2
  | artifactFor source kind => (session.artifactFor source kind world).2
  | sourceFor artifact => (session.sourceFor artifact world).2
  | recordFor artifact => (session.recordFor artifact world).2
  | records => (session.records world).2
  | setExtraArgs extraArgs => ({ session with extraArgs }, world)
  | compile artifact => (session.compile tools artifact world).2

/-- The operation looks first whether the database changed. -/
def refreshes : Op → Bool
  | load | setExtraArgs _ => false
  | _ => true

/-- The operation tries to load the database. -/
def loads (session : Session) (world : World σ) : Op → Bool
  | load => true
  | setExtraArgs _ => false
  | _ => session.isOutdated world

/-- An operation that refreshes loads the database if it is outdated. -/
theorem loads_of_refreshes {op : Op} (refreshes : op.refreshes = true) (session : Session)
    (world : World σ) : op.loads session world = session.isOutdated world := by
  cases op with
  | load | setExtraArgs => cases refreshes
  | _ => rfl

end Session.Op

/-- An attempt to load the database: the world that it found, and its answer. -/
structure Attempt (σ : Type) where
  world : World σ
  answer : Except Failure Nat

/-- The state of a run. -/
structure History (σ : Type) where
  session : Session
  world : World σ
  /-- The attempts to load the database, the latest first. -/
  attempts : List (Attempt σ)

namespace History

/-- Nothing was done yet. -/
def start (places : Settings.Places) (world : World σ) : History σ := ⟨.start places, world, []⟩

/-- A load that would be tried now. -/
def attempt (history : History σ) : Attempt σ :=
  ⟨history.world, (history.session.load history.world).1⟩

/-- After an operation. -/
def act (tools : Toolchain σ) (op : Session.Op) (history : History σ) : History σ where
  session := (op.perform tools history.session history.world).1
  world := (op.perform tools history.session history.world).2
  attempts :=
    if op.loads history.session history.world then history.attempt :: history.attempts
    else history.attempts

/-- One step of a run. -/
inductive Step (tools : Toolchain σ) (history : History σ) : History σ → Prop
  | act (op : Session.Op) : Step tools history (history.act tools op)
  /-- Others change the world. -/
  | outside (world : World σ) (host : world.host = history.world.host)
      (trace : world.trace = history.world.trace) : Step tools history { history with world }

/-- A run from one history to another, in which every step keeps a discipline. -/
def Run (tools : Toolchain σ) (Discipline : History σ → History σ → Prop) :
    History σ → History σ → Prop :=
  Relation.ReflTransGen fun history next => Step tools history next ∧ Discipline history next

/-- A run that keeps a discipline keeps every weaker one. -/
theorem Run.mono {tools : Toolchain σ} {Strong Weak : History σ → History σ → Prop}
    (weaken : ∀ history next, Strong history next → Weak history next) {first last : History σ}
    (run : Run tools Strong first last) : Run tools Weak first last :=
  Relation.ReflTransGen.mono (fun _ _ step => ⟨step.1, weaken _ _ step.2⟩) _ _ run

theorem Run.act {tools : Toolchain σ} {Discipline : History σ → History σ → Prop}
    {first last : History σ} (run : Run tools Discipline first last) (op : Session.Op)
    (keeps : Discipline last (last.act tools op)) :
    Run tools Discipline first (last.act tools op) :=
  Relation.ReflTransGen.tail run ⟨.act op, keeps⟩

/-! ### The four cases of an operation -/

/-- After a load. -/
def loaded (history : History σ) : History σ where
  session := (history.session.load history.world).2.1
  world := (history.session.load history.world).2.2
  attempts := history.attempt :: history.attempts

/-- After a refresh. -/
def refreshed (history : History σ) : History σ where
  session := (history.session.refresh history.world).2.1
  world := (history.session.refresh history.world).2.2
  attempts :=
    if history.session.isOutdated history.world then history.attempt :: history.attempts
    else history.attempts

/-- After the registry was cleared. -/
def emptied (history : History σ) : History σ :=
  { history with session := history.session.emptied }

/-- After the extra arguments were set. -/
def withExtraArgs (history : History σ) (extraArgs : List String) : History σ :=
  { history with session := { history.session with extraArgs } }

/-- After a record was executed and written back. -/
def executed (tools : Toolchain σ) (record : BuildRecord) (history : History σ) : History σ where
  session := { history.session with
    registry := history.session.registry.update
      (tools.execute record history.session.extraArgs history.world).2.1 }
  world := (tools.execute record history.session.extraArgs history.world).2.2
  attempts := history.attempts

/-- What a refresh comes to: nothing, a load, or a load that failed and left nothing behind. -/
inductive Refreshed (history : History σ) : History σ → Prop
  | current (fresh : history.session.isOutdated history.world = false) :
      Refreshed history history
  | loaded (outdated : history.session.isOutdated history.world = true) :
      Refreshed history history.loaded
  | emptied (outdated : history.session.isOutdated history.world = true) (failure : Failure)
      (answer : history.attempt.answer = .error failure) :
      Refreshed history history.loaded.emptied

theorem refreshed_cases (history : History σ) : Refreshed history history.refreshed := by
  have hrefresh := history.session.refreshed history.world
  unfold refreshed
  generalize history.session.refresh history.world = step at hrefresh
  cases hrefresh with
  | current fresh =>
    simp only [fresh]
    exact .current fresh
  | reloaded outdated count load =>
    simp only [outdated]
    exact .loaded outdated
  | survived outdated failure load =>
    simp only [outdated]
    exact .emptied outdated failure load
  | broken outdated failure load =>
    simp only [outdated]
    exact .loaded outdated

/-- What an operation comes to. -/
inductive Acted (tools : Toolchain σ) (history : History σ) : Session.Op → History σ → Prop
  | loaded : Acted tools history .load history.loaded
  | refreshed {op : Session.Op} (refreshes : op.refreshes = true) :
      Acted tools history op history.refreshed
  | withExtraArgs (extraArgs : List String) :
      Acted tools history (.setExtraArgs extraArgs) (history.withExtraArgs extraArgs)
  /-- A compilation refreshes, finds a record, and executes it. -/
  | executed (artifact : Path) (record : BuildRecord)
      (found : history.refreshed.session.registry.recordFor artifact = some record) :
      Acted tools history (.compile artifact) (history.refreshed.executed tools record)

/-- Nothing but a refresh happens. -/
private theorem act_eq_refreshed {tools : Toolchain σ} {history : History σ} {op : Session.Op}
    (refreshes : op.refreshes = true)
    (perform : op.perform tools history.session history.world =
      (history.session.refresh history.world).2) : history.act tools op = history.refreshed := by
  rw [act, refreshed, perform, Session.Op.loads_of_refreshes refreshes]

/-- What a compilation answers and comes to. -/
inductive Answered (tools : Toolchain σ) (artifact : Path) (history : History σ) :
    Except Failure BuildResult → History σ → Prop
  | refused (failure : Failure) :
      Answered tools artifact history (.error failure) history.refreshed
  | upToDate (record : BuildRecord)
      (found : history.refreshed.session.registry.recordFor artifact = some record)
      (fresh : record.needsBuild history.refreshed.world.host history.refreshed.world.files
        history.refreshed.session.extraArgs history.refreshed.session.database = false) :
      Answered tools artifact history (.ok .upToDate) history.refreshed
  | executed (record : BuildRecord)
      (found : history.refreshed.session.registry.recordFor artifact = some record) :
      Answered tools artifact history
        (tools.execute record history.refreshed.session.extraArgs history.refreshed.world).1
        (history.refreshed.executed tools record)

theorem answered (tools : Toolchain σ) (artifact : Path) (history : History σ) :
    Answered tools artifact history (history.session.compile tools artifact history.world).1
      (history.act tools (.compile artifact)) := by
  have hcompile := history.session.compiled tools artifact history.world
  generalize hstep : history.session.compile tools artifact history.world = step at hcompile
  have hperform : (Session.Op.compile artifact).perform tools history.session history.world =
      step.2 := by rw [Session.Op.perform, hstep]
  cases hcompile with
  | broken failure later after refresh | unknown later after refresh =>
    rw [act_eq_refreshed rfl (by rw [hperform, refresh])]
    exact .refused _
  | upToDate later after record refresh found fresh =>
    rw [act_eq_refreshed rfl (by rw [hperform, refresh])]
    exact .upToDate record (by rw [refreshed, refresh, found]) (by rw [refreshed, refresh, fresh])
  | executed later after record refresh found =>
    have hact : history.act tools (.compile artifact) =
        history.refreshed.executed tools record := by
      rw [act, executed, hperform, refreshed, refresh]
      rfl
    have hanswer : (tools.execute record later.extraArgs after).1 =
        (tools.execute record history.refreshed.session.extraArgs history.refreshed.world).1 := by
      rw [refreshed, refresh]
    rw [hact, hanswer]
    exact .executed record (by rw [refreshed, refresh, found])

/-- A compilation that changes the trace executes a record. -/
theorem executed_of_ran {tools : Toolchain σ} {artifact : Path} {history : History σ}
    (ran : (history.act tools (.compile artifact)).world.trace ≠ history.world.trace) :
    ∃ record, history.refreshed.session.registry.recordFor artifact = some record ∧
      history.act tools (.compile artifact) = history.refreshed.executed tools record := by
  have hanswered := answered tools artifact history
  generalize (history.session.compile tools artifact history.world).1 = answer at hanswered
  generalize history.act tools (.compile artifact) = next at hanswered ran ⊢
  cases hanswered with
  | refused | upToDate => exact absurd (Session.trace_refresh ..) ran
  | executed record found => exact ⟨record, found, rfl⟩

/-- A compilation that leaves the trace as it was does nothing but refresh. -/
theorem refreshed_of_idle {tools : Toolchain σ} {artifact : Path} {history : History σ}
    (idle : (history.act tools (.compile artifact)).world.trace = history.world.trace) :
    history.act tools (.compile artifact) = history.refreshed := by
  have hanswered := answered tools artifact history
  generalize (history.session.compile tools artifact history.world).1 = answer at hanswered
  generalize history.act tools (.compile artifact) = next at hanswered idle ⊢
  cases hanswered with
  | refused | upToDate => rfl
  | executed record =>
    obtain ⟨events, htrace⟩ := tools.trace_execute record history.refreshed.session.extraArgs
      history.refreshed.world
    rw [executed, htrace, refreshed, Session.trace_refresh] at idle
    simp at idle

theorem acted (tools : Toolchain σ) (history : History σ) (op : Session.Op) :
    Acted tools history op (history.act tools op) := by
  have hrefresh : ∀ {op : Session.Op}, op.refreshes = true →
      op.perform tools history.session history.world =
        (history.session.refresh history.world).2 →
      Acted tools history op (history.act tools op) := by
    intro op refreshes perform
    rw [act_eq_refreshed refreshes perform]
    exact .refreshed refreshes
  cases op with
  | load => exact .loaded
  | setExtraArgs extraArgs => exact .withExtraArgs extraArgs
  | compile artifact =>
    have hanswered := answered tools artifact history
    generalize (history.session.compile tools artifact history.world).1 = answer at hanswered
    generalize history.act tools (.compile artifact) = next at hanswered
    cases hanswered with
    | refused | upToDate => exact .refreshed rfl
    | executed record found => exact .executed artifact record found
  | refresh => exact .refreshed rfl
  | artifactFor | sourceFor | recordFor | records => exact hrefresh rfl (Session.query_snd _ _ _)

@[simp]
theorem host_refreshed (history : History σ) :
    history.refreshed.world.host = history.world.host := Session.host_refresh _ _

/-- The host stays. -/
theorem Step.host {tools : Toolchain σ} {history next : History σ}
    (step : Step tools history next) : next.world.host = history.world.host := by
  cases step with
  | outside world host => exact host
  | act op =>
    have hacted := history.acted tools op
    generalize history.act tools op = next at hacted
    cases hacted with
    | loaded => exact Session.host_load _ _
    | refreshed => exact history.host_refreshed
    | withExtraArgs => rfl
    | executed => exact (Toolchain.host_execute ..).trans history.host_refreshed

end History

/-! ### A small project

A project in the root directory: the source `/a`, the database `/d`, and the directory `/o` for
artifacts. -/

namespace Sample

def host : Host := ⟨⟨.root, []⟩, "/", []⟩

def places : Settings.Places where
  root := ⟨.root, []⟩
  outputDir := ⟨.root, [⟨"o", by decide⟩]⟩
  database := ⟨.root, [⟨"d", by decide⟩]⟩

/-- The listing of the source. -/
def artifact : Path := ⟨.root, [⟨"o", by decide⟩, ⟨"a.s", by decide⟩]⟩

/-- The command that builds the listing with a compiler. -/
def listing (compiler : String) : String :=
  compiler ++ " -g1 -S -masm=intel -fno-unwind-tables -fno-asynchronous-unwind-tables " ++
    "-fno-dwarf2-cfi-asm -o \"/o/a.s\""

/-- A database with one entry, which compiles the source with a command. -/
def content (command : String) : Octets :=
  ("[\x7b\"file\":\"a\",\"directory\":\"/\",\"command\":\"" ++ command ++ "\"\x7d]").toList.map
    fun c => UInt8.ofNat c.toNat

/-- Nothing is built yet. -/
def sources : FileSystem where
  at? location :=
    match location.map Name.text with
    | [] => some (.directory 0)
    | ["a"] => some (.file [] 1000 false)
    | ["d"] => some (.file (content "c") 1000 false)
    | _ => none

/-- The listing was built at 2000; the database holds a command since a moment. -/
def built (command : String) (modified : Instant) : FileSystem where
  at? location :=
    match location.map Name.text with
    | [] => some (.directory 0)
    | ["a"] => some (.file [] 1000 false)
    | ["d"] => some (.file (content command) modified false)
    | ["o"] => some (.directory 0)
    | ["o", name] => if name = "a.s" then some (.file [] 2000 false) else none
    | _ => none

/-- A compiler that builds the listing whatever the command. -/
def tools : Toolchain Unit where
  run _ _ _ _ := (.ok ⟨"", "", some 0⟩, built "c" 1000, ())
  demangle _ files := (.ok (), files)

def newWorld : World Unit := ⟨host, sources, 1500, (), []⟩

end Sample

end ArtifactLens
