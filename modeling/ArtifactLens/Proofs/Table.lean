import ArtifactLens.Table
import Mathlib.Data.List.Nodup

/-!
# Keys of tables

What the operations of a table do to the list of its keys, and to its values when these change in
a way that a view does not show:

* **Membership**: a key is listed exactly when it has a value (`mem_keys_iff`).
* **Order**: writing keeps the place of a known key and appends a new one (`keys_insert`); erasing
  drops the key and keeps the order of the others (`keys_erase`).
* **No repeats**: both keep a list of keys without repeats (`nodup_keys_insert`,
  `nodup_keys_erase`).
* **Last**: a key that is written after it was erased comes last (`entries_insert_erase`).
* **Values**: writing a new key appends its value (`values_insert_of_get?_eq_none`); erasing a key
  takes its value away and leaves the others (`perm_values_erase`).
* **Views**: writing a value that looks the same under a view leaves the viewed table as it was
  (`view_insert_of_get?`).
-/

namespace ArtifactLens

namespace Table

variable {α β γ : Type}

/-- The table with every value seen through a function. -/
def view (f : β → γ) (table : Table α β) : Table α γ :=
  ⟨table.entries.map fun entry => (entry.1, f entry.2)⟩

@[simp]
theorem keys_empty : (empty : Table α β).keys = [] := rfl

@[simp]
theorem length_keys (table : Table α β) : table.keys.length = table.size := by
  simp [keys, size]

variable [DecidableEq α]

private theorem find?_eq_some_iff_mem {key : α} {entries : List (α × β)} :
    key ∈ entries.map (·.1) ↔ ∃ value, find? key entries = some value := by
  induction entries with
  | nil => simp [find?]
  | cons entry rest ih =>
    rw [List.map_cons, List.mem_cons, ih, find?]
    by_cases h : entry.1 = key
    · simp [h]
    · simp [h, Ne.symm h]

/-- A key is listed exactly when it has a value. -/
theorem mem_keys_iff {table : Table α β} {key : α} :
    key ∈ table.keys ↔ ∃ value, table.get? key = some value :=
  find?_eq_some_iff_mem

theorem mem_keys_of_get? {table : Table α β} {key : α} {value : β}
    (h : table.get? key = some value) : key ∈ table.keys :=
  mem_keys_iff.mpr ⟨value, h⟩

/-- A key without a value is not listed. -/
theorem not_mem_keys_iff {table : Table α β} {key : α} :
    key ∉ table.keys ↔ table.get? key = none := by
  rw [mem_keys_iff, Option.eq_none_iff_forall_ne_some, not_exists]

private theorem map_write (key : α) (value : β) (entries : List (α × β)) :
    (write key value entries).map (·.1) =
      if key ∈ entries.map (·.1) then entries.map (·.1) else entries.map (·.1) ++ [key] := by
  induction entries with
  | nil => simp [write]
  | cons entry rest ih =>
    rw [write]
    by_cases h : entry.1 = key
    · simp [h]
    · rw [if_neg h, List.map_cons, ih]
      simp only [List.map_cons, List.mem_cons, Ne.symm h, false_or]
      split_ifs <;> rfl

/-- Writing keeps the place of a known key and appends a new one. -/
theorem keys_insert (table : Table α β) (key : α) (value : β) :
    (table.insert key value).keys = if key ∈ table.keys then table.keys else table.keys ++ [key] :=
  map_write key value table.entries

/-- After writing, the keys are those from before and the one that was written. -/
theorem mem_keys_insert {table : Table α β} {key other : α} {value : β} :
    other ∈ (table.insert key value).keys ↔ key = other ∨ other ∈ table.keys := by
  rw [keys_insert]
  split_ifs with known
  · exact ⟨.inr, fun h => h.elim (fun same => same ▸ known) id⟩
  · rw [List.mem_append, List.mem_singleton, or_comm, @eq_comm _ other]

/-- Erasing drops the key and keeps the order of the others. -/
theorem keys_erase (table : Table α β) (key : α) :
    (table.erase key).keys = table.keys.filter (· ≠ key) := by
  rw [keys, keys, List.filter_map]
  rfl

theorem nodup_keys_insert {table : Table α β} (h : table.keys.Nodup) (key : α) (value : β) :
    (table.insert key value).keys.Nodup := by
  rw [keys_insert]
  split_ifs with hmem
  · exact h
  · exact List.nodup_append.mpr ⟨h, List.nodup_singleton key, fun a ha b hb => by
      rw [List.mem_singleton.mp hb]
      exact fun hab => hmem (hab ▸ ha)⟩

theorem nodup_keys_erase {table : Table α β} (h : table.keys.Nodup) (key : α) :
    (table.erase key).keys.Nodup := by
  rw [keys_erase]
  exact h.filter _

private theorem find?_of_mem {entries : List (α × β)} (nodup : (entries.map (·.1)).Nodup)
    {entry : α × β} (h : entry ∈ entries) : find? entry.1 entries = some entry.2 := by
  induction entries with
  | nil => cases h
  | cons first rest ih =>
    rw [List.map_cons, List.nodup_cons] at nodup
    rw [find?]
    cases List.mem_cons.mp h with
    | inl hfirst => rw [hfirst, if_pos rfl]
    | inr hrest =>
      have hne : first.1 ≠ entry.1 := fun heq => nodup.1 (heq ▸ List.mem_map_of_mem hrest)
      rw [if_neg hne, ih nodup.2 hrest]

/-- A listed entry gives the value of its key if no key repeats. -/
theorem get?_of_mem_entries {table : Table α β} (nodup : table.keys.Nodup) {key : α} {value : β}
    (h : (key, value) ∈ table.entries) : table.get? key = some value :=
  find?_of_mem nodup h

/-- A listed value is the value of some key if no key repeats. -/
theorem get?_of_mem_values {table : Table α β} (nodup : table.keys.Nodup) {value : β}
    (h : value ∈ table.values) : ∃ key, table.get? key = some value := by
  obtain ⟨⟨key, value⟩, hentry, rfl⟩ := List.mem_map.mp h
  exact ⟨key, get?_of_mem_entries nodup hentry⟩

private theorem perm_filter_of_find? {key : α} {value : β} {entries : List (α × β)}
    (nodup : (entries.map (·.1)).Nodup) (h : find? key entries = some value) :
    entries.Perm ((key, value) :: entries.filter (·.1 ≠ key)) := by
  induction entries with
  | nil => cases h
  | cons entry rest ih =>
    obtain ⟨other, content⟩ := entry
    rw [List.map_cons, List.nodup_cons] at nodup
    rw [find?] at h
    dsimp only at h nodup
    split_ifs at h with same
    · obtain rfl := Option.some.inj h
      subst same
      -- No other entry has the key, so that the others all stay.
      have stay : rest.filter (fun entry => decide (entry.1 ≠ other)) = rest :=
        List.filter_eq_self.mpr fun entry hentry => decide_eq_true fun heq =>
          nodup.1 (heq ▸ List.mem_map_of_mem hentry)
      rw [List.filter_cons_of_neg (by simp), stay]
    · rw [List.filter_cons_of_pos (by simpa using same)]
      exact ((ih nodup.2 h).cons _).trans (.swap ..)

/-- Erasing a key takes its value away, and that once. -/
theorem perm_values_erase {table : Table α β} (nodup : table.keys.Nodup) {key : α} {value : β}
    (h : table.get? key = some value) :
    table.values.Perm (value :: (table.erase key).values) :=
  (perm_filter_of_find? nodup h).map Prod.snd

private theorem write_of_not_mem {key : α} {value : β} {entries : List (α × β)}
    (h : key ∉ entries.map (·.1)) : write key value entries = entries ++ [(key, value)] := by
  induction entries with
  | nil => rfl
  | cons entry rest ih =>
    rw [List.map_cons, List.mem_cons, not_or] at h
    rw [write, if_neg (Ne.symm h.1), ih h.2, List.cons_append]

/-- A key that is written after it was erased comes last. -/
theorem entries_insert_erase (table : Table α β) (key : α) (value : β) :
    ((table.erase key).insert key value).entries =
      table.entries.filter (·.1 ≠ key) ++ [(key, value)] := by
  refine write_of_not_mem ?_
  rw [← keys, keys_erase, List.mem_filter]
  simp

/-- The value of a new key comes last. -/
theorem values_insert_of_get?_eq_none {table : Table α β} {key : α} (value : β)
    (h : table.get? key = none) : (table.insert key value).values = table.values ++ [value] := by
  rw [values, insert, write_of_not_mem (not_mem_keys_iff.mpr h), List.map_append]
  rfl

/-- A key without a value need not be erased. -/
theorem erase_of_get?_eq_none {table : Table α β} {key : α} (h : table.get? key = none) :
    table.erase key = table := by
  have hkey := not_mem_keys_iff.mpr h
  refine congrArg Table.mk (List.filter_eq_self.mpr fun entry hentry => ?_)
  exact decide_eq_true fun heq => hkey (List.mem_map.mpr ⟨entry, hentry, heq⟩)

private theorem map_write_of_find? {f : β → γ} {key : α} {old new : β} (hf : f new = f old) :
    ∀ {entries : List (α × β)}, find? key entries = some old →
      (write key new entries).map (fun entry => (entry.1, f entry.2)) =
        entries.map fun entry => (entry.1, f entry.2)
  | [], h => by simp [find?] at h
  | entry :: rest, h => by
    rw [find?] at h
    rw [write]
    by_cases hk : entry.1 = key
    · rw [if_pos hk] at h ⊢
      obtain rfl := Option.some.inj h
      simp [hf, hk]
    · rw [if_neg hk] at h ⊢
      simp [map_write_of_find? hf h]

/-- Writing a value that looks the same under a view leaves the viewed table as it was. -/
theorem view_insert_of_get? {f : β → γ} {table : Table α β} {key : α} {old new : β}
    (h : table.get? key = some old) (hf : f new = f old) :
    (table.insert key new).view f = table.view f :=
  congrArg Table.mk (map_write_of_find? hf h)

/-- Writing the value that a key has changes nothing. -/
theorem insert_of_get? {table : Table α β} {key : α} {value : β}
    (h : table.get? key = some value) : table.insert key value = table := by
  have hview : ∀ table : Table α β, table.view id = table := fun table =>
    congrArg Table.mk (List.map_id table.entries)
  rw [← hview (table.insert key value), view_insert_of_get? h rfl, hview]

private theorem find?_map (f : β → γ) (key : α) (entries : List (α × β)) :
    find? key (entries.map fun entry => (entry.1, f entry.2)) = (find? key entries).map f := by
  induction entries with
  | nil => rfl
  | cons entry rest ih =>
    rw [List.map_cons, find?, find?, ih]
    split_ifs <;> rfl

/-- A viewed table holds the viewed values. -/
@[simp]
theorem get?_view (f : β → γ) (table : Table α β) (key : α) :
    (table.view f).get? key = (table.get? key).map f :=
  find?_map f key table.entries

end Table

end ArtifactLens
