import ArtifactLens.Proofs.Provider.Cases
import Mathlib.Data.List.Induction
import Mathlib.Data.List.Nodup

/-!
# The observers of a watch table

A watch table makes an observer when a watch first needs one, schedules directories on it, and
stops it when the table is closed; the next watch makes another. The table itself does not hold the
observer: it has one as long as it has directories.

**The calls of observers fall into epochs** (`WatchTable.epochs`). Each epoch belongs to an observer
of its own: it is started, then the directories of the epoch are scheduled, each once. An epoch ends
with the closing of the table, which unschedules the same directories in the same order, stops the
observer and joins it. The directories of an epoch are the parents of the paths that are watched in
it and were directories at a watch, in the order in which this was first so. An epoch without such a
directory leaves no calls.

To say which observer a call goes to, an `Observed` table keeps the number of its observer beside
it and logs the calls with it. The trace of the world holds the same calls.
-/

namespace ArtifactLens

variable {σ : Type}

/-! ### Lists without repeats -/

private theorem eraseDups_concat {α : Type} [DecidableEq α] (items : List α) (item : α) :
    (items ++ [item]).eraseDups =
      if item ∈ items then items.eraseDups else items.eraseDups ++ [item] := by
  rw [List.eraseDups_append]
  by_cases known : item ∈ items
  · simp [List.removeAll, known]
  · simp [List.removeAll, known, List.eraseDups_cons]

private theorem nodup_eraseDups {α : Type} [DecidableEq α] (items : List α) :
    items.eraseDups.Nodup := by
  induction items using List.reverseRecOn with
  | nil => exact List.nodup_nil
  | append_singleton items item ih =>
    rw [eraseDups_concat]
    split_ifs with known
    · exact ih
    · rw [← List.mem_eraseDups] at known
      exact List.nodup_append.mpr ⟨ih, List.nodup_singleton item, fun other hother last hlast => by
        rw [List.mem_singleton.mp hlast]
        exact ne_of_mem_of_not_mem hother known⟩

namespace WatchTable

/-! ### Calls -/

/-- What may happen to a watch table. -/
inductive Call where
  | watch (path subscriber : Path)
  | close
  /-- Others change the files. -/
  | outside (files : FileSystem)

/-- What a call makes of a table and the world. -/
def Call.perform (state : WatchTable × World σ) : Call → WatchTable × World σ
  | watch path subscriber => state.1.watch path subscriber state.2
  | close => state.1.close state.2
  | outside files => (state.1, { state.2 with files })

/-- The calls that start an observer and schedule directories on it, if there are any. -/
def opening : List Path → List Event
  | [] => []
  | directories => .started :: directories.map (.scheduled · false)

/-- The calls that take directories from an observer and stop it. -/
def closing (directories : List Path) : List Event :=
  directories.map .unscheduled ++ [.stopped, .joined]

/-- A directory is scheduled after those before it; the first one starts the observer. -/
theorem opening_concat (directories : List Path) (directory : Path) :
    opening (directories ++ [directory]) = opening directories ++
      ((if directories = [] then [.started] else []) ++ [.scheduled directory false]) := by
  cases directories with
  | nil => rfl
  | cons first rest => simp [opening]

/-- Closing a table makes the calls that its directories need, and drops the subscriptions. -/
theorem close_eq (table : WatchTable) (world : World σ) :
    table.close world = (.empty, { world with
      trace := world.trace ++
        if table.directories = [] then [] else closing table.directories }) := by
  rw [close]
  by_cases idle : table.directories = []
  · simp [idle]
  · rw [if_neg (by simpa using idle), if_neg idle, World.foldl_note]
    simp [World.note, closing]

/-- Watching a path makes no call if its directory is scheduled or is none. Otherwise the directory
is scheduled, on an observer that is started if there is no other directory. -/
theorem watch_eq (table : WatchTable) (path subscriber : Path) (world : World σ) :
    table.watch path subscriber world =
      if path.parent ∈ table.directories ∨ world.files.isDirectory world.host path.parent = false
      then (table.subscribe path subscriber, world)
      else
        ({ table.subscribe path subscriber with
            directories := table.directories ++ [path.parent] },
          { world with trace := world.trace ++
              ((if table.directories = [] then [.started] else []) ++
                [.scheduled path.parent false]) }) := by
  have hdirectories : (table.subscribe path subscriber).directories = table.directories := rfl
  rw [watch]
  dsimp only
  rw [hdirectories]
  by_cases known : path.parent ∈ table.directories
  · simp [known]
  · by_cases isDirectory : world.files.isDirectory world.host path.parent = true
    · by_cases idle : table.directories = []
      · simp [isDirectory, idle, World.note]
      · simp [known, isDirectory, idle, World.note]
    · simp [known, isDirectory]

/-! ### Numbered observers -/

/-- A watch table with the number of its observer, and the calls that went to each observer. -/
structure Observed (σ : Type) where
  table : WatchTable
  world : World σ
  /-- The observer at work, if there is one. -/
  observer : Option Nat
  /-- The number of observers made so far. -/
  made : Nat
  log : List (Nat × Event)

namespace Observed

/-- Nothing is watched yet. -/
def start (world : World σ) : Observed σ := ⟨.empty, world, none, 0, []⟩

/-- Calls that go to one observer. -/
def addressed (observer : Nat) (events : List Event) : List (Nat × Event) :=
  events.map (observer, ·)

theorem map_snd_addressed (observer : Nat) (events : List Event) :
    (addressed observer events).map (·.2) = events := by
  rw [addressed, List.map_map]
  exact List.map_id events

/-- After a directory was scheduled on the observer at work, or on a new one that is started. -/
def schedule (observed : Observed σ) (directory : Path) : Observed σ :=
  match observed.observer with
  | some observer => { observed with
      log := observed.log ++ addressed observer [.scheduled directory false] }
  | none => { observed with
      observer := some observed.made
      made := observed.made + 1
      log := observed.log ++ addressed observed.made [.started, .scheduled directory false] }

/-- After the observer at work gave up its directories and was stopped. -/
def stop (observed : Observed σ) : Observed σ :=
  match observed.observer with
  | some observer => { observed with
      observer := none
      log := observed.log ++ addressed observer (closing observed.table.directories) }
  | none => observed

/-- After a call. A watch schedules its directory, unless that is scheduled already or is none. -/
def act (observed : Observed σ) (call : Call) : Observed σ :=
  let state := call.perform (observed.table, observed.world)
  let later := match call with
    | .watch path _ =>
      if path.parent ∈ observed.table.directories ∨
          observed.world.files.isDirectory observed.world.host path.parent = false then observed
      else observed.schedule path.parent
    | .close => observed.stop
    | .outside _ => observed
  { later with table := state.1, world := state.2 }

/-- After calls, one after the other. -/
def run (observed : Observed σ) (calls : List Call) : Observed σ := calls.foldl act observed

end Observed

/-! ### Epochs -/

/-- What the watches get to see: the parents of the paths that are watched, when they are
directories. -/
structure Sightings where
  files : FileSystem
  /-- What was seen up to each closing. -/
  past : List (List Path)
  /-- What was seen since the last one. -/
  present : List Path

namespace Sightings

/-- Nothing was seen yet. -/
def start (files : FileSystem) : Sightings := ⟨files, [], []⟩

/-- The sightings with one more directory. -/
def see (sightings : Sightings) (directory : Path) : Sightings :=
  { sightings with present := sightings.present ++ [directory] }

/-- After a call. -/
def act (host : Host) (sightings : Sightings) : Call → Sightings
  | .watch path _ =>
    if sightings.files.isDirectory host path.parent then sightings.see path.parent else sightings
  | .close => { sightings with past := sightings.past ++ [sightings.present], present := [] }
  | .outside files => { sightings with files }

/-- After calls, one after the other. -/
def run (host : Host) (sightings : Sightings) (calls : List Call) : Sightings :=
  calls.foldl (act host) sightings

/-- The directories of the last epoch, in the order in which they were first seen. -/
def live (sightings : Sightings) : List Path := sightings.present.eraseDups

/-- The directories of the epochs that were closed. Where nothing was seen there was no epoch. -/
def closed (sightings : Sightings) : List (List Path) :=
  (sightings.past.map List.eraseDups).filter (· ≠ [])

/-- The calls of the epochs, each with its own observer. -/
def log (sightings : Sightings) : List (Nat × Event) :=
  (sightings.closed.zipIdx.flatMap fun epoch =>
    Observed.addressed epoch.2 (opening epoch.1 ++ closing epoch.1)) ++
  Observed.addressed sightings.closed.length (opening sightings.live)

theorem nodup_of_mem_closed {sightings : Sightings} {epoch : List Path}
    (h : epoch ∈ sightings.closed) : epoch ≠ [] ∧ epoch.Nodup := by
  obtain ⟨hpast, nonempty⟩ := List.mem_filter.mp h
  obtain ⟨seen, -, rfl⟩ := List.mem_map.mp hpast
  exact ⟨by simpa using nonempty, nodup_eraseDups seen⟩

/-- What is seen again makes no difference. -/
theorem live_see_of_mem {sightings : Sightings} {directory : Path}
    (h : directory ∈ sightings.live) : (sightings.see directory).live = sightings.live := by
  rw [live, List.mem_eraseDups] at h
  rw [live, see, eraseDups_concat, if_pos h]
  rfl

/-- What is seen for the first time comes last. -/
theorem live_see_of_not_mem {sightings : Sightings} {directory : Path}
    (h : directory ∉ sightings.live) :
    (sightings.see directory).live = sightings.live ++ [directory] := by
  rw [live, List.mem_eraseDups] at h
  rw [live, see, eraseDups_concat, if_neg h]
  rfl

/-- What is seen for the first time is scheduled, which starts the epoch if it is the first. -/
theorem log_see_of_not_mem {sightings : Sightings} {directory : Path}
    (h : directory ∉ sightings.live) :
    (sightings.see directory).log = sightings.log ++
      Observed.addressed sightings.closed.length
        ((if sightings.live = [] then [.started] else []) ++ [.scheduled directory false]) := by
  have same : (sightings.see directory).closed = sightings.closed := rfl
  rw [log, live_see_of_not_mem h, same, opening_concat, log, List.append_assoc]
  simp only [Observed.addressed, List.map_append]

/-- A closing ends the last epoch, if there is one. -/
theorem closed_close (host : Host) (sightings : Sightings) :
    (sightings.act host .close).closed =
      if sightings.live = [] then sightings.closed else sightings.closed ++ [sightings.live] := by
  rw [act, closed, closed, List.map_append, List.filter_append]
  by_cases idle : sightings.live = []
  · have last : sightings.present.eraseDups = [] := idle
    simp [idle, last]
  · have last : sightings.present.eraseDups ≠ [] := idle
    simp [live, last]

/-- The calls of an epoch that is closed follow those of the epochs before. -/
theorem log_close (host : Host) (sightings : Sightings) :
    (sightings.act host .close).log = sightings.log ++
      if sightings.live = [] then []
      else Observed.addressed sightings.closed.length (closing sightings.live) := by
  have none_live : (sightings.act host .close).live = [] := rfl
  rw [log, none_live, closed_close, log]
  by_cases idle : sightings.live = []
  · simp [idle]
  · rw [if_neg idle, if_neg idle, List.zipIdx_append, List.flatMap_append]
    simp [Observed.addressed, opening]

end Sightings

namespace Observed

/-- The observers of a table follow what its watches get to see. -/
structure Follows (host : Host) (trace : List Event) (observed : Observed σ)
    (sightings : Sightings) : Prop where
  host : observed.world.host = host
  files : observed.world.files = sightings.files
  directories : observed.table.directories = sightings.live
  observer : observed.observer =
    if sightings.live = [] then none else some sightings.closed.length
  made : observed.made =
    if sightings.live = [] then sightings.closed.length else sightings.closed.length + 1
  log : observed.log = sightings.log
  trace : observed.world.trace = trace ++ observed.log.map (·.2)

namespace Follows

variable {host : Host} {trace : List Event} {observed : Observed σ} {sightings : Sightings}

theorem start (world : World σ) :
    (start world).Follows world.host world.trace (.start world.files) :=
  ⟨rfl, rfl, rfl, rfl, rfl, rfl, (List.append_nil _).symm⟩

/-- A watch of a directory that is scheduled already leaves the observers alone, as one of a missing
directory does. -/
theorem watch_of_not (h : observed.Follows host trace sightings) (path subscriber : Path)
    (idle : path.parent ∈ observed.table.directories ∨
      observed.world.files.isDirectory observed.world.host path.parent = false) :
    (observed.act (.watch path subscriber)).Follows host trace
      (sightings.act host (.watch path subscriber)) := by
  have hact : observed.act (.watch path subscriber) =
      { observed with table := observed.table.subscribe path subscriber } := by
    simp only [act, Call.perform, watch_eq, if_pos idle]
  have hlive : (sightings.act host (.watch path subscriber)).live = sightings.live := by
    rw [Sightings.act]
    split_ifs with isDirectory
    · obtain known | missing := idle
      · exact Sightings.live_see_of_mem (h.directories ▸ known)
      · rw [h.files, h.host, isDirectory] at missing
        cases missing
    · rfl
  have hclosed : (sightings.act host (.watch path subscriber)).closed = sightings.closed := by
    rw [Sightings.act]
    split_ifs <;> rfl
  have hfiles : (sightings.act host (.watch path subscriber)).files = sightings.files := by
    rw [Sightings.act]
    split_ifs <;> rfl
  have hlog : (sightings.act host (.watch path subscriber)).log = sightings.log := by
    rw [Sightings.log, hlive, hclosed, Sightings.log]
  rw [hact]
  constructor
  · exact h.host
  · exact h.files.trans hfiles.symm
  · exact h.directories.trans hlive.symm
  · rw [hlive, hclosed]
    exact h.observer
  · rw [hlive, hclosed]
    exact h.made
  · exact h.log.trans hlog.symm
  · exact h.trace

/-- Scheduling numbers the observer by the epochs before, and starts it for the first directory. -/
theorem schedule_eq (h : observed.Follows host trace sightings) (directory : Path) :
    observed.schedule directory = { observed with
      observer := some sightings.closed.length
      made := sightings.closed.length + 1
      log := observed.log ++ addressed sightings.closed.length
        ((if sightings.live = [] then [.started] else []) ++ [.scheduled directory false]) } := by
  have hobserver := h.observer
  have hmade := h.made
  by_cases first : sightings.live = []
  · rw [if_pos first] at hobserver hmade
    simp only [schedule, hobserver, hmade, if_pos first, List.singleton_append]
  · rw [if_neg first] at hobserver hmade
    simp only [schedule, hobserver, if_neg first, List.nil_append, ← hmade]

/-- A watch of another directory schedules it. -/
theorem watch (h : observed.Follows host trace sightings) (path subscriber : Path)
    (new : path.parent ∉ observed.table.directories)
    (isDirectory : observed.world.files.isDirectory observed.world.host path.parent = true) :
    (observed.act (.watch path subscriber)).Follows host trace
      (sightings.act host (.watch path subscriber)) := by
  have needed : ¬(path.parent ∈ observed.table.directories ∨
      observed.world.files.isDirectory observed.world.host path.parent = false) := by
    simp [new, isDirectory]
  have hact : observed.act (.watch path subscriber) =
      { observed.schedule path.parent with
        table := (observed.table.watch path subscriber observed.world).1
        world := (observed.table.watch path subscriber observed.world).2 } := by
    simp only [act, Call.perform, if_neg needed]
  have hseen : sightings.act host (.watch path subscriber) = sightings.see path.parent := by
    rw [h.files, h.host] at isDirectory
    rw [Sightings.act, if_pos isDirectory]
  rw [hact, hseen, h.schedule_eq, watch_eq, if_neg needed]
  rw [h.directories] at new
  have hlive := Sightings.live_see_of_not_mem new
  have live : (sightings.see path.parent).live ≠ [] := by simp [hlive]
  constructor
  · exact h.host
  · exact h.files
  · rw [hlive, ← h.directories]
  · rw [if_neg live]
    rfl
  · rw [if_neg live]
    rfl
  · rw [Sightings.log_see_of_not_mem new, h.log]
  · dsimp only
    rw [h.trace, h.directories, List.map_append, map_snd_addressed, List.append_assoc]

/-- Closing stops the observer at work, if there is one. -/
theorem stop_eq (h : observed.Follows host trace sightings) :
    observed.stop = { observed with
      observer := none
      log := observed.log ++ if sightings.live = [] then []
        else addressed sightings.closed.length (closing sightings.live) } := by
  have hobserver := h.observer
  by_cases idle : sightings.live = []
  · rw [if_pos idle] at hobserver
    simp only [stop, hobserver, if_pos idle, List.append_nil]
    rw [← hobserver]
  · rw [if_neg idle] at hobserver
    simp only [stop, hobserver, if_neg idle, h.directories]

theorem close (h : observed.Follows host trace sightings) :
    (observed.act .close).Follows host trace (sightings.act host .close) := by
  have hact : observed.act .close = { observed.stop with
      table := (observed.table.close observed.world).1
      world := (observed.table.close observed.world).2 } := rfl
  have hclosed := sightings.closed_close host
  have live : (sightings.act host .close).live = [] := rfl
  rw [hact, h.stop_eq, close_eq]
  constructor
  · exact h.host
  · exact h.files
  · rfl
  · rw [if_pos live]
  · rw [if_pos live, hclosed, h.made]
    split_ifs
    · rfl
    · rw [List.length_append, List.length_singleton]
  · rw [Sightings.log_close, h.log]
  · dsimp only
    rw [h.trace, h.directories, List.map_append, List.append_assoc]
    split_ifs
    · rfl
    · rw [map_snd_addressed]

/-- Every call keeps the observers following what the watches see. -/
theorem act (h : observed.Follows host trace sightings) (call : Call) :
    (observed.act call).Follows host trace (sightings.act host call) := by
  cases call with
  | outside files => exact ⟨h.host, rfl, h.directories, h.observer, h.made, h.log, h.trace⟩
  | close => exact h.close
  | watch path subscriber =>
    by_cases idle : path.parent ∈ observed.table.directories ∨
        observed.world.files.isDirectory observed.world.host path.parent = false
    · exact h.watch_of_not path subscriber idle
    · rw [not_or, Bool.not_eq_false] at idle
      exact h.watch path subscriber idle.1 idle.2

theorem run (h : observed.Follows host trace sightings) (calls : List Call) :
    (observed.run calls).Follows host trace (sightings.run host calls) := by
  induction calls generalizing observed sightings with
  | nil => exact h
  | cons call rest ih => exact ih (h.act call)

end Follows

/-! ### After a stop -/

/-- No call but the joining goes to an observer that was stopped; the observer at work was not. -/
structure Orderly (observed : Observed σ) : Prop where
  known : ∀ call ∈ observed.log, call.1 < observed.made
  running : ∀ observer, observed.observer = some observer →
    observer < observed.made ∧ (observer, .stopped) ∉ observed.log
  settled : observed.log.Pairwise fun earlier later =>
    earlier.2 = .stopped → earlier.1 = later.1 → later.2 = .joined

/-- Calls may go to an observer that was not stopped, up to its own stopping. -/
theorem settled_append {log : List (Nat × Event)} {observer : Nat} {events : List Event}
    (settled : log.Pairwise fun earlier later =>
      earlier.2 = .stopped → earlier.1 = later.1 → later.2 = .joined)
    (running : (observer, .stopped) ∉ log)
    (orderly : events.Pairwise fun earlier later => earlier = .stopped → later = .joined) :
    (log ++ addressed observer events).Pairwise fun earlier later =>
      earlier.2 = .stopped → earlier.1 = later.1 → later.2 = .joined := by
  refine List.pairwise_append.mpr ⟨settled, ?_, fun earlier hearlier later hlater => ?_⟩
  · exact List.pairwise_map.mpr (orderly.imp fun h stopped _ => h stopped)
  · obtain ⟨event, -, rfl⟩ := List.mem_map.mp hlater
    intro stopped same
    have hstopped : earlier = (observer, .stopped) := Prod.ext same stopped
    exact absurd (hstopped ▸ hearlier) running

/-- Unscheduling comes before the stop. -/
theorem pairwise_closing (directories : List Path) :
    (closing directories).Pairwise fun earlier later => earlier = .stopped → later = .joined := by
  refine List.pairwise_append.mpr ⟨?_, ?_, fun earlier hearlier later _ stopped => ?_⟩
  · exact List.pairwise_map.mpr (List.pairwise_of_forall fun _ _ => nofun)
  · simp
  · obtain ⟨directory, -, rfl⟩ := List.mem_map.mp hearlier
    cases stopped

namespace Orderly

variable {observed : Observed σ}

theorem start (world : World σ) : (start world).Orderly := ⟨nofun, nofun, .nil⟩

theorem schedule (h : observed.Orderly) (directory : Path) :
    (observed.schedule directory).Orderly := by
  cases hobserver : observed.observer with
  | some observer =>
    obtain ⟨made, running⟩ := h.running observer hobserver
    simp only [Observed.schedule, hobserver]
    refine ⟨fun call hcall => ?_, fun other hother => ?_, ?_⟩
    · obtain hcall | hcall := List.mem_append.mp hcall
      · exact h.known call hcall
      · rw [List.mem_singleton.mp hcall]
        exact made
    · obtain rfl := Option.some.inj hother
      exact ⟨made, by simp [running, addressed]⟩
    · exact settled_append h.settled running (List.pairwise_singleton _ _)
  | none =>
    have running : (observed.made, .stopped) ∉ observed.log := fun hcall =>
      Nat.lt_irrefl _ (h.known _ hcall)
    simp only [Observed.schedule, hobserver]
    refine ⟨fun call hcall => ?_, fun other hother => ?_, ?_⟩
    · obtain hcall | hcall := List.mem_append.mp hcall
      · exact Nat.lt_succ_of_lt (h.known call hcall)
      · obtain ⟨event, -, rfl⟩ := List.mem_map.mp hcall
        exact Nat.lt_succ_self _
    · obtain rfl := Option.some.inj hother
      exact ⟨Nat.lt_succ_self _, by simp [running, addressed]⟩
    · exact settled_append h.settled running (by simp)

theorem stop (h : observed.Orderly) : observed.stop.Orderly := by
  cases hobserver : observed.observer with
  | none =>
    simp only [Observed.stop, hobserver]
    exact h
  | some observer =>
    obtain ⟨made, running⟩ := h.running observer hobserver
    simp only [Observed.stop, hobserver]
    refine ⟨fun call hcall => ?_, nofun, settled_append h.settled running (pairwise_closing _)⟩
    obtain hcall | hcall := List.mem_append.mp hcall
    · exact h.known call hcall
    · obtain ⟨event, -, rfl⟩ := List.mem_map.mp hcall
      exact made

theorem act (h : observed.Orderly) (call : Call) : (observed.act call).Orderly := by
  cases call with
  | outside files => exact ⟨h.known, h.running, h.settled⟩
  | close =>
    have stopped := h.stop
    exact ⟨stopped.known, stopped.running, stopped.settled⟩
  | watch path subscriber =>
    have scheduled := h.schedule path.parent
    by_cases idle : path.parent ∈ observed.table.directories ∨
        observed.world.files.isDirectory observed.world.host path.parent = false
    · simp only [Observed.act, if_pos idle]
      exact ⟨h.known, h.running, h.settled⟩
    · simp only [Observed.act, if_neg idle]
      exact ⟨scheduled.known, scheduled.running, scheduled.settled⟩

theorem run (h : observed.Orderly) (calls : List Call) : (observed.run calls).Orderly := by
  induction calls generalizing observed with
  | nil => exact h
  | cons call rest ih => exact ih (h.act call)

end Orderly

/-- The observers do not influence the table. -/
theorem run_eq (observed : Observed σ) (calls : List Call) :
    ((observed.run calls).table, (observed.run calls).world) =
      calls.foldl Call.perform (observed.table, observed.world) := by
  induction calls generalizing observed with
  | nil => rfl
  | cons call rest ih => exact ih (observed.act call)

end Observed

/-- **The calls of observers fall into epochs.** Watch a table that starts out empty through any
calls, while others change the files. It notes the calls that go to its observers. In them the
epochs follow one another, each with an observer of its own: it is started, the directories of the
epoch are scheduled, which are some and none twice, in the order in which they were first seen as
the parents of watched paths; and then, unless it is the last epoch and still open, they are
unscheduled in the same order, and the observer is stopped and joined. Nothing but the joining
follows a stop, and another closing makes no call exactly when no epoch is open. -/
theorem epochs (calls : List Call) (world : World σ) :
    let observed := (Observed.start world).run calls
    let sightings := (Sightings.start world.files).run world.host calls
    (observed.table, observed.world) = calls.foldl Call.perform (.empty, world) ∧
    observed.world.trace = world.trace ++ observed.log.map (·.2) ∧
    observed.log =
      (sightings.closed.zipIdx.flatMap fun epoch =>
        Observed.addressed epoch.2 (opening epoch.1 ++ closing epoch.1)) ++
      Observed.addressed sightings.closed.length (opening sightings.live) ∧
    (∀ epoch ∈ sightings.closed, epoch ≠ [] ∧ epoch.Nodup) ∧ sightings.live.Nodup ∧
    (observed.log.Pairwise fun earlier later =>
      earlier.2 = .stopped → earlier.1 = later.1 → later.2 = .joined) ∧
    (observed.observer = none ↔ sightings.live = []) ∧
    ((observed.act .close).log = observed.log ↔ observed.observer = none) := by
  intro observed sightings
  have follows : observed.Follows world.host world.trace sightings :=
    (Observed.Follows.start world).run calls
  have orderly : observed.Orderly := (Observed.Orderly.start world).run calls
  have hobserver : observed.observer = none ↔ sightings.live = [] := by
    rw [follows.observer]
    split_ifs with idle
    · exact iff_of_true rfl idle
    · exact iff_of_false nofun idle
  have hclose : (observed.act .close).log = observed.log ↔ sightings.live = [] := by
    rw [follows.close.log, Sightings.log_close, ← follows.log]
    split_ifs with idle
    · exact iff_of_true (List.append_nil _) idle
    · refine iff_of_false (fun same => ?_) idle
      have closing_nil := List.append_right_eq_self.mp same
      simp [Observed.addressed, closing] at closing_nil
  exact ⟨Observed.run_eq _ calls, follows.trace, follows.log,
    fun _ => Sightings.nodup_of_mem_closed, nodup_eraseDups _, orderly.settled, hobserver,
    hclose.trans hobserver.symm⟩

end WatchTable

end ArtifactLens
