import ArtifactLens.Listing
import ArtifactLens.Proofs.Json
import ArtifactLens.Proofs.Session.FailedLoads
import ArtifactLens.Proofs.Text

/-!
# What the content of a file brings about

Databases and artifacts are files of any content. Of a database, all that is wrong with its octets,
its text, its shape, its entries or their words is a failure of the pipeline, which a refresh
survives. One thing is not: an integer of more digits than are accepted, which the reader of JSON
refuses on grounds of its own (`Database.commands_error`). Of an artifact, every content has
lines, unless one of them is a line directive with a line number of more digits than are accepted
(`Listing.parse_error_iff`).

**A refresh fails if and only if it meets such an integer** in a database that may have changed
(`Session.refresh_error_iff`), and with it every query fails. A session that was just refreshed does
not meet one (`Session.not_stumbles_of_refresh`).
-/

namespace ArtifactLens

variable {σ : Type}

/-! ### Databases -/

namespace Database

variable {host : Host} {fs : FileSystem} {database : Path} {failure : Failure} {content : Octets}
  {digits : Nat}

/-- The reader of JSON comes upon an integer of too many digits. -/
def Overlong (content : Octets) (digits : Nat) : Prop :=
  ∃ text, Utf8.decode content = .ok text ∧
    Json.parse (Lines.normalize text) = .error (.longInteger digits)

/-- The integer stands in the text of the database. -/
theorem Overlong.run (h : Overlong content digits) :
    ∃ text run, Utf8.decode content = .ok text ∧ run <:+: Lines.normalize text ∧
      (∀ c ∈ run, c.isDigit = true) ∧ run.length = digits ∧ Json.integerLimit < digits := by
  obtain ⟨text, decode, parse⟩ := h
  obtain ⟨long, run, within, length, all⟩ := Json.run_of_parse parse
  exact ⟨text, run, decode, within, all, length, long⟩

/-- All that is wrong with the text of a database is a failure of its own, but for an integer of too
many digits. -/
theorem json_error (h : json database content = .error failure) :
    failure.category = .configuration ∨ failure.category = .database ∨
      ∃ digits, failure = .longInteger digits ∧ Overlong content digits := by
  rw [json] at h
  split at h
  · obtain rfl := Except.error.inj h
    exact .inl rfl
  · rename_i text decode
    split at h
    · cases h
    · obtain rfl := Except.error.inj h
      exact .inr (.inl rfl)
    · exact .inr (.inr ⟨_, (Except.error.inj h).symm, text, decode, ‹_›⟩)

theorem category_of_entriesFrom {index : Nat} {items : List Json}
    (h : entriesFrom index items = .error failure) : failure.category = .database := by
  induction items generalizing index with
  | nil => cases h
  | cons item rest ih =>
    rw [entriesFrom] at h
    split at h
    · obtain rfl := Except.error.inj h
      rfl
    · split at h
      · rename_i again
        exact ih (Except.error.inj h ▸ again)
      · cases h

theorem category_of_entries {value : Json} (h : entries database value = .error failure) :
    failure.category = .database := by
  unfold entries at h
  split at h
  · exact category_of_entriesFrom h
  · obtain rfl := Except.error.inj h
    rfl

theorem category_of_commandsOf {all : List Entry} (h : commandsOf host all = .error failure) :
    failure.category = .database := by
  induction all with
  | nil => cases h
  | cons entry rest ih =>
    rw [commandsOf] at h
    split at h
    · obtain rfl := Except.error.inj h
      rfl
    · split at h
      · rename_i again
        exact ih (Except.error.inj h ▸ again)
      · cases h

theorem commands_of_overlong (found : fs.read host database = .ok content)
    (h : Overlong content digits) : commands host fs database = .error (.longInteger digits) := by
  obtain ⟨text, decode, parse⟩ := h
  have long : json database content = .error (.longInteger digits) := by
    rw [json, decode]
    dsimp only
    rw [parse]
  rw [commands, read, found]
  dsimp only
  rw [long]

/-- A database that yields no commands cannot be read, is malformed, or holds an integer of too many
digits. -/
theorem commands_error_cases (h : commands host fs database = .error failure) :
    failure.category = .configuration ∨ failure.category = .database ∨
      ∃ digits content, failure = .longInteger digits ∧
        fs.read host database = .ok content ∧ Overlong content digits := by
  rw [commands, read] at h
  cases found : fs.read host database with
  | error fault =>
    rw [found] at h
    obtain rfl := Except.error.inj h
    exact .inl rfl
  | ok content =>
    rw [found] at h
    dsimp only at h
    cases hjson : json database content with
    | error met =>
      rw [hjson] at h
      obtain rfl := Except.error.inj h
      obtain category | category | ⟨digits, rfl, long⟩ := json_error hjson
      · exact .inl category
      · exact .inr (.inl category)
      · exact .inr (.inr ⟨digits, content, rfl, rfl, long⟩)
    | ok value =>
      rw [hjson] at h
      dsimp only at h
      cases hentries : entries database value with
      | error met =>
        rw [hentries] at h
        obtain rfl := Except.error.inj h
        exact .inr (.inl (category_of_entries hentries))
      | ok all =>
        rw [hentries] at h
        exact .inr (.inl (category_of_commandsOf h))

/-- The only failure to load a database that is none of the pipeline is an integer of too many
digits in its content. -/
theorem commands_error (h : commands host fs database = .error failure)
    (other : failure.isPipeline = false) :
    ∃ digits content, failure = .longInteger digits ∧
      fs.read host database = .ok content ∧ Overlong content digits := by
  rw [Failure.isPipeline] at other
  obtain category | category | long := commands_error_cases h
  · rw [category] at other
    cases other
  · rw [category] at other
    cases other
  · exact long

end Database

/-! ### Refreshing -/

namespace Session

variable {session : Session} {world : World σ} {failure : Failure}

/-- The database may have changed since the last load, and holds an integer of too many digits. -/
def Stumbles (session : Session) (world : World σ) (digits : Nat) : Prop :=
  session.isOutdated world = true ∧ ∃ content,
    world.files.read world.host session.database = .ok content ∧
      Database.Overlong content digits

/-- **A refresh fails if and only if it meets an integer of too many digits.** -/
theorem refresh_error_iff : (session.refresh world).1 = .error failure ↔
    ∃ digits, failure = .longInteger digits ∧ session.Stumbles world digits := by
  constructor
  · intro failed
    obtain ⟨outdated, load, other⟩ := of_refresh_error failed
    obtain ⟨digits, content, rfl, found, long⟩ :=
      Database.commands_error (commands_of_load load other) other
    exact ⟨digits, rfl, outdated, content, found, long⟩
  · rintro ⟨digits, rfl, outdated, content, found, long⟩
    have failed := load_of_commands (Database.commands_of_overlong found long)
    have hrefreshed := session.refreshed world
    generalize session.refresh world = step at hrefreshed
    cases hrefreshed with
    | current fresh => cases outdated.symm.trans fresh
    | reloaded outdated count load => cases failed.symm.trans load
    | survived outdated met load pipeline =>
      obtain rfl := Except.error.inj (failed.symm.trans load)
      cases pipeline
    | broken outdated met load =>
      exact congrArg Except.error (Except.error.inj (load.symm.trans failed))

/-- A query fails as the refresh before it does. -/
theorem query_error_iff {α : Type} (answer : Registry → α) :
    (query answer session world).1 = .error failure ↔
      (session.refresh world).1 = .error failure := by
  rw [query]
  rcases session.refresh world with ⟨met | _, later, after⟩
  · rw [Except.error.injEq, Except.error.injEq]
  · constructor <;>
    · intro h
      cases h

variable {later : Session} {after : World σ} {digits : Nat}

/-- A refresh leaves the database as it found it. -/
theorem content?_refresh (session : Session) (world : World σ) :
    (session.refresh world).2.2.files.content? world.host session.database =
      world.files.content? world.host session.database := by
  obtain same | loaded := session.refresh_world world
  · rw [same]
  · rw [loaded]
    exact FileSystem.content?_congr (session.node?_load world)

/-- A session that was refreshed does not stumble. -/
theorem not_stumbles_of_refresh (refresh : session.refresh world = (.ok (), later, after)) :
    ¬later.Stumbles after digits := by
  rintro ⟨again, content, found, long⟩
  by_cases outdated : session.isOutdated world = true
  · have hcontent := session.content?_refresh world
    have hdatabase := session.database_refresh world
    have hhost := session.host_refresh world
    rw [refresh] at hcontent hdatabase hhost
    dsimp only at hcontent hdatabase hhost
    rw [hdatabase, hhost, ← FileSystem.content?_eq_some_iff, hcontent,
      FileSystem.content?_eq_some_iff] at found
    have failed := refresh_error_iff.mpr ⟨digits, rfl, outdated, content, found, long⟩
    rw [refresh] at failed
    cases failed
  · have fresh : session.isOutdated world = false := Bool.eq_false_iff.mpr outdated
    rw [refresh_of_current fresh] at refresh
    cases refresh
    exact outdated again

end Session

/-! ### Listings -/

namespace Listing

/-- The number of digits of a line number that has too many. -/
def long? (line : List Char) : Option Nat :=
  ((directive? line).map List.length).filter (Json.integerLimit < ·)

/-- The number of digits of the first line number in an artifact that has too many. -/
def overlong? (content : Octets) : Option Nat :=
  (Lines.split (Lines.normalize (Utf8.decodeLossy content))).findSome? long?

theorem parseFrom_error_iff {binary : Bool} {sourceLine : Option Nat} {done : List Line}
    {lines : List (List Char)} {digits : Nat} :
    parseFrom binary sourceLine done lines = .error digits ↔
      lines.findSome? long? = some digits := by
  induction lines generalizing sourceLine done with
  | nil => exact iff_of_false nofun nofun
  | cons line rest ih =>
    rw [List.findSome?_cons, parseFrom, long?]
    cases directive? line with
    | none => exact ih
    | some number =>
      dsimp only [Option.map_some]
      split_ifs with long
      · rw [Option.filter_some, if_pos (decide_eq_true long), Except.error.injEq, Option.some.injEq]
      · rw [Option.filter_some, if_neg (by simpa using long)]
        exact ih

/-- **An artifact has lines, unless a line number in it has too many digits.** -/
theorem parse_error_iff {binary : Bool} {content : Octets} {digits : Nat} :
    parse binary (Lines.normalize (Utf8.decodeLossy content)) = .error digits ↔
      overlong? content = some digits := parseFrom_error_iff

end Listing

end ArtifactLens
