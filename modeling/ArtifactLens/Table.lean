/-!
# Tables

Finite maps that remember the order in which their keys came in. Writing to a key that is present
leaves it where it stands; a key that was erased and is written again comes last. `get?_insert`,
`get?_erase` and `get?_empty` say what each operation does to the view `get?`.
-/

namespace ArtifactLens

/-- A finite map in the order of its keys' arrival. -/
structure Table (α β : Type) where
  entries : List (α × β)
  deriving DecidableEq

namespace Table

variable {α β : Type}

/-- The table without keys. -/
def empty : Table α β := ⟨[]⟩

instance : Inhabited (Table α β) := ⟨empty⟩

/-- The number of keys. -/
def size (table : Table α β) : Nat := table.entries.length

/-- The values in the order of their keys. -/
def values (table : Table α β) : List β := table.entries.map (·.2)

/-- The keys in order. -/
def keys (table : Table α β) : List α := table.entries.map (·.1)

variable [DecidableEq α]

/-- The value of a key in a list of entries. -/
@[grind =]
def find? (key : α) : List (α × β) → Option β
  | [] => none
  | entry :: rest => if entry.1 = key then some entry.2 else find? key rest

/-- The value of a key. -/
def get? (table : Table α β) (key : α) : Option β := find? key table.entries

/-- Writes to a key in a list of entries: in its place if it is there, at the end otherwise. -/
@[grind =]
def write (key : α) (value : β) : List (α × β) → List (α × β)
  | [] => [(key, value)]
  | entry :: rest =>
    if entry.1 = key then (key, value) :: rest else entry :: write key value rest

/-- Gives a key a value. -/
def insert (table : Table α β) (key : α) (value : β) : Table α β :=
  ⟨write key value table.entries⟩

/-- Takes a key away. -/
def erase (table : Table α β) (key : α) : Table α β :=
  ⟨table.entries.filter fun entry => entry.1 ≠ key⟩

@[simp]
theorem get?_empty (key : α) : (empty : Table α β).get? key = none := rfl

theorem find?_write (key other : α) (value : β) (entries : List (α × β)) :
    find? other (write key value entries) =
      if key = other then some value else find? other entries := by
  induction entries with
  | nil => simp [write, find?]
  | cons entry rest ih => grind

@[simp]
theorem get?_insert (table : Table α β) (key other : α) (value : β) :
    (table.insert key value).get? other = if key = other then some value else table.get? other :=
  find?_write key other value table.entries

@[simp]
theorem get?_erase (table : Table α β) (key other : α) :
    (table.erase key).get? other = if key = other then none else table.get? other := by
  simp only [erase, get?]
  induction table.entries with
  | nil => simp [find?]
  | cons entry rest ih => grind

end Table

end ArtifactLens
