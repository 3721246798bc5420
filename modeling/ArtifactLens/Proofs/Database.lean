import ArtifactLens.Database
import ArtifactLens.Proofs.Session.Run
import Mathlib.Data.List.Forall2
import Mathlib.Tactic.Common

/-!
# What a database has to hold

`IsEntry` says which value is an entry, and of what: an object with two texts that give the place,
and with a command, arguments or both. A key that is absent counts as one that is null, and of a
key that is repeated the last value counts. `Offends` says what is wrong with any other value. The
two are told apart by the value alone (`exists_isEntry_or_offends`), and the decoding of an element
meets both of them (`IsEntry.entryOf_eq`, `Offends.entryOf_eq`), so that it is exact in both
directions (`entryOf_ok_iff`, `entryOf_error_iff`). It is the same with a list of elements: they are
all entries, or one of them is the first that is not (`forall₂_or_isFirstOffence`).

**A database is read as a whole or not at all** (`read_iff`). It is read if and only if its value
is an array of entries, and yields just these, in order. Of any other array the first element that
is no entry is reported, with its index.
-/

namespace ArtifactLens

namespace Database

/-! ### Entries -/

section Fields

variable {α : Type} {fields : List (String × Json)} {key : String}

/-- The key is absent or null. -/
def Lacks (fields : List (String × Json)) (key : String) : Prop :=
  Json.field? fields key = none ∨ Json.field? fields key = some .null

/-- What an object offers under a key: a value in the given form, or nothing. -/
def Offers (fields : List (String × Json)) (key : String) (form : α → Json) : Option α → Prop
  | none => Lacks fields key
  | some value => Json.field? fields key = some (form value)

/-- An array of texts. -/
def texts (list : List String) : Json :=
  .array (list.map .string)

/-- The object has texts for the file and the directory. -/
def IsPlaced (fields : List (String × Json)) : Prop :=
  ∃ file directory, Json.field? fields "file" = some (.string file) ∧
    Json.field? fields "directory" = some (.string directory)

/-- The value is an object that holds what the entry holds. -/
inductive IsEntry : Json → Entry → Prop
  | intro {fields : List (String × Json)} {entry : Entry}
      (file : Json.field? fields "file" = some (.string entry.file))
      (directory : Json.field? fields "directory" = some (.string entry.directory))
      (command : Offers fields "command" Json.string entry.command)
      (arguments : Offers fields "arguments" texts entry.arguments)
      (offered : entry.command ≠ none ∨ entry.arguments ≠ none) : IsEntry (.object fields) entry

/-- What is wrong with a value that is no entry. If several things are, it is the first of them. -/
inductive Offends : Json → EntryFault → Prop
  | notObject {item : Json} (h : ∀ fields, item ≠ .object fields) : Offends item .notObject
  | missingPlace {fields : List (String × Json)} (h : ¬IsPlaced fields) :
      Offends (.object fields) .missingPlace
  | missingCommand {fields : List (String × Json)} (placed : IsPlaced fields)
      (command : Lacks fields "command") (arguments : Lacks fields "arguments") :
      Offends (.object fields) .missingCommand
  | badCommand {fields : List (String × Json)} (placed : IsPlaced fields)
      (h : ∀ offer, ¬Offers fields "command" Json.string offer) :
      Offends (.object fields) .badCommand
  | badArguments {fields : List (String × Json)} {command : Option String}
      (placed : IsPlaced fields) (offers : Offers fields "command" Json.string command)
      (h : ∀ offer, ¬Offers fields "arguments" texts offer) :
      Offends (.object fields) .badArguments

/-- Every value is an entry, or there is something wrong with it. -/
theorem exists_isEntry_or_offends (item : Json) :
    (∃ entry, IsEntry item entry) ∨ ∃ fault, Offends item fault := by
  cases item with
  | object fields =>
    by_cases placed : IsPlaced fields
    swap
    · exact .inr ⟨_, .missingPlace placed⟩
    by_cases command : ∃ offer, Offers fields "command" Json.string offer
    swap
    · exact .inr ⟨_, .badCommand placed (not_exists.mp command)⟩
    obtain ⟨command, hcommand⟩ := command
    by_cases arguments : ∃ offer, Offers fields "arguments" texts offer
    swap
    · exact .inr ⟨_, .badArguments placed hcommand (not_exists.mp arguments)⟩
    obtain ⟨arguments, harguments⟩ := arguments
    by_cases offered : command ≠ none ∨ arguments ≠ none
    · obtain ⟨file, directory, hfile, hdirectory⟩ := placed
      exact .inl ⟨⟨file, directory, command, arguments⟩,
        .intro hfile hdirectory hcommand harguments offered⟩
    · obtain ⟨rfl, rfl⟩ : command = none ∧ arguments = none := by simpa using offered
      exact .inr ⟨_, .missingCommand placed hcommand harguments⟩
  | null | bool | number | string | array => exact .inr ⟨_, .notObject nofun⟩

/-! ### Decoding an element -/

theorem lacks_iff : Lacks fields key ↔ fieldOf fields key = .null := by
  rw [Lacks, fieldOf]
  cases Json.field? fields key <;> simp

theorem field?_eq_some_iff {value : Json} (h : value ≠ .null) :
    Json.field? fields key = some value ↔ fieldOf fields key = value := by
  rw [fieldOf]
  cases Json.field? fields key with
  | none => exact iff_of_false nofun h.symm
  | some found => exact Option.some.injEq found value ▸ Iff.rfl

/-- The value of a key is null, where nothing is offered, or what is offered, in its form. -/
theorem offers_iff (form : α → Json) (h : ∀ value, form value ≠ .null) {offer : Option α} :
    Offers fields key form offer ↔ fieldOf fields key = offer.elim .null form := by
  cases offer with
  | none => exact lacks_iff
  | some value => exact field?_eq_some_iff (h value)

theorem isPlaced_iff : IsPlaced fields ↔
    ∃ file directory, fieldOf fields "file" = .string file ∧
      fieldOf fields "directory" = .string directory :=
  exists₂_congr fun _ _ => and_congr (field?_eq_some_iff nofun) (field?_eq_some_iff nofun)

@[simp]
theorem strings?_map (list : List String) : strings? (list.map .string) = some list := by
  induction list with
  | nil => rfl
  | cons text rest ih => rw [List.map_cons, strings?, ih, Option.map_some]

theorem eq_map_of_strings? {items : List Json} {list : List String}
    (h : strings? items = some list) : items = list.map .string := by
  induction items generalizing list with
  | nil =>
    cases h
    rfl
  | cons item rest ih =>
    cases item with
    | string text =>
      obtain ⟨again, hagain, rfl⟩ := Option.map_eq_some_iff.mp h
      rw [ih hagain, List.map_cons]
    | null | bool | number | array | object => cases h

/-- An entry is decoded into what it holds. -/
theorem IsEntry.entryOf_eq {item : Json} {entry : Entry} (h : IsEntry item entry) :
    entryOf item = .ok entry := by
  obtain ⟨file, directory, command, arguments, offered⟩ := h
  rw [field?_eq_some_iff (by simp)] at file directory
  rw [offers_iff Json.string nofun] at command
  rw [offers_iff texts nofun] at arguments
  rw [entryOf, file, directory, command, arguments]
  obtain ⟨file, directory, _ | command, _ | arguments⟩ := entry
  · simp at offered
  all_goals simp [isNull, texts]

/-- Any other value is refused for what is wrong with it. -/
theorem Offends.entryOf_eq {item : Json} {fault : EntryFault} (h : Offends item fault) :
    entryOf item = .error fault := by
  cases h with
  | notObject h =>
    cases item with
    | object fields => exact absurd rfl (h fields)
    | null | bool | number | string | array => rfl
  | missingPlace h =>
    rw [isPlaced_iff] at h
    rw [entryOf]
    split
    · exact absurd ⟨_, _, ‹_›, ‹_›⟩ h
    · rfl
  | missingCommand placed command arguments =>
    obtain ⟨file, directory, hfile, hdirectory⟩ := isPlaced_iff.mp placed
    rw [entryOf, hfile, hdirectory, lacks_iff.mp command, lacks_iff.mp arguments]
    rfl
  | badCommand placed h =>
    obtain ⟨file, directory, hfile, hdirectory⟩ := isPlaced_iff.mp placed
    simp only [offers_iff Json.string nofun] at h
    rw [entryOf, hfile, hdirectory]
    generalize fieldOf _ "command" = value at h ⊢
    cases value with
    | null => exact absurd rfl (h none)
    | string text => exact absurd rfl (h (some text))
    | bool | number | array | object => rfl
  | @badArguments fields command placed offers h =>
    obtain ⟨file, directory, hfile, hdirectory⟩ := isPlaced_iff.mp placed
    rw [offers_iff Json.string nofun] at offers
    simp only [offers_iff texts nofun] at h
    rw [entryOf, hfile, hdirectory, offers]
    generalize fieldOf _ "arguments" = value at h ⊢
    cases value with
    | null => exact absurd rfl (h none)
    | array items =>
      have none_ : strings? items = none := by
        refine Option.eq_none_iff_forall_ne_some.mpr fun list hlist => h (some list) ?_
        rw [eq_map_of_strings? hlist]
        rfl
      cases command <;> simp [isNull, none_]
    | bool | number | string | object => cases command <;> rfl

theorem entryOf_ok_iff {item : Json} {entry : Entry} :
    entryOf item = .ok entry ↔ IsEntry item entry := by
  refine ⟨fun h => ?_, IsEntry.entryOf_eq⟩
  obtain ⟨other, hother⟩ | ⟨fault, hfault⟩ := exists_isEntry_or_offends item
  · cases h.symm.trans hother.entryOf_eq
    exact hother
  · cases h.symm.trans hfault.entryOf_eq

theorem entryOf_error_iff {item : Json} {fault : EntryFault} :
    entryOf item = .error fault ↔ Offends item fault := by
  refine ⟨fun h => ?_, Offends.entryOf_eq⟩
  obtain ⟨entry, hentry⟩ | ⟨other, hother⟩ := exists_isEntry_or_offends item
  · cases h.symm.trans hentry.entryOf_eq
  · cases h.symm.trans hother.entryOf_eq
    exact hother

/-- What is wrong with a value is that it is no entry. -/
theorem Offends.not_isEntry {item : Json} {fault : EntryFault} (h : Offends item fault)
    (entry : Entry) : ¬IsEntry item entry := by
  intro hentry
  cases h.entryOf_eq.symm.trans hentry.entryOf_eq

end Fields

/-! ### Decoding all elements -/

/-- The element with the index is the first that is no entry, and the fault is what is wrong with
it. -/
structure IsFirstOffence (items : List Json) (index : Nat) (fault : EntryFault) : Prop where
  offends : ∃ item, items[index]? = some item ∧ Offends item fault ∧ ∀ entry, ¬IsEntry item entry
  before : ∀ j < index, ∃ item entry, items[j]? = some item ∧ IsEntry item entry

section Elements

variable {items rest : List Json} {item : Json} {entry : Entry} {fault : EntryFault}
  {start index : Nat}

theorem IsFirstOffence.head (h : Offends item fault) : IsFirstOffence (item :: rest) 0 fault :=
  ⟨⟨item, rfl, h, h.not_isEntry⟩, nofun⟩

theorem IsFirstOffence.tail (hentry : IsEntry item entry) (h : IsFirstOffence rest index fault) :
    IsFirstOffence (item :: rest) (index + 1) fault where
  offends := h.offends
  before
    | 0, _ => ⟨item, entry, rfl, hentry⟩
    | j + 1, within => h.before j (Nat.lt_of_succ_lt_succ within)

theorem IsFirstOffence.of_cons (h : IsFirstOffence (item :: rest) (index + 1) fault) :
    IsFirstOffence rest index fault :=
  ⟨h.offends, fun j within => h.before (j + 1) (Nat.succ_lt_succ within)⟩

/-- The elements are all entries, or one of them is the first that is not. -/
theorem forall₂_or_isFirstOffence (items : List Json) :
    (∃ all, List.Forall₂ IsEntry items all) ∨ ∃ index fault, IsFirstOffence items index fault := by
  induction items with
  | nil => exact .inl ⟨[], .nil⟩
  | cons item rest ih =>
    obtain ⟨entry, hentry⟩ | ⟨fault, hfault⟩ := exists_isEntry_or_offends item
    swap
    · exact .inr ⟨0, fault, .head hfault⟩
    obtain ⟨entries, hrest⟩ | ⟨index, fault, first⟩ := ih
    · exact .inl ⟨entry :: entries, .cons hentry hrest⟩
    · exact .inr ⟨index + 1, fault, first.tail hentry⟩

theorem exists_forall₂_iff :
    (∃ all, List.Forall₂ IsEntry items all) ↔ ∀ item ∈ items, ∃ entry, IsEntry item entry := by
  induction items with
  | nil => exact iff_of_true ⟨[], .nil⟩ nofun
  | cons item rest ih =>
    rw [List.forall_mem_cons, ← ih]
    constructor
    · rintro ⟨_, _ | ⟨hentry, hrest⟩⟩
      exact ⟨⟨_, hentry⟩, _, hrest⟩
    · rintro ⟨⟨entry, hentry⟩, entries, hrest⟩
      exact ⟨entry :: entries, .cons hentry hrest⟩

theorem entriesFrom_of_forall₂ {all : List Entry} (h : List.Forall₂ IsEntry items all)
    (start : Nat) : entriesFrom start items = .ok all := by
  induction h generalizing start with
  | nil => rfl
  | cons hentry _ ih =>
    rw [entriesFrom, hentry.entryOf_eq]
    dsimp only
    rw [ih]

theorem IsFirstOffence.entriesFrom_eq (h : IsFirstOffence items index fault) (start : Nat) :
    entriesFrom start items = .error (.entry (start + index) fault) := by
  induction items generalizing start index with
  | nil =>
    obtain ⟨_, found, -⟩ := h.offends
    cases found
  | cons item rest ih =>
    rw [entriesFrom]
    cases index with
    | zero =>
      obtain ⟨_, found, hfault, -⟩ := h.offends
      obtain rfl := Option.some.inj found
      rw [hfault.entryOf_eq]
      rfl
    | succ index =>
      obtain ⟨_, entry, found, hentry⟩ := h.before 0 (Nat.succ_pos index)
      obtain rfl := Option.some.inj found
      rw [hentry.entryOf_eq]
      dsimp only
      rw [ih h.of_cons, Nat.add_assoc, Nat.add_comm 1]

theorem entriesFrom_ok_iff {all : List Entry} :
    entriesFrom start items = .ok all ↔ List.Forall₂ IsEntry items all := by
  refine ⟨fun h => ?_, fun h => entriesFrom_of_forall₂ h start⟩
  obtain ⟨others, hothers⟩ | ⟨index, fault, first⟩ := forall₂_or_isFirstOffence items
  · cases h.symm.trans (entriesFrom_of_forall₂ hothers start)
    exact hothers
  · cases h.symm.trans (first.entriesFrom_eq start)

theorem entriesFrom_error_iff {failure : Failure} :
    entriesFrom start items = .error failure ↔
      ∃ index fault, IsFirstOffence items index fault ∧ failure = .entry (start + index) fault := by
  constructor
  · intro h
    obtain ⟨all, hall⟩ | ⟨index, fault, first⟩ := forall₂_or_isFirstOffence items
    · cases h.symm.trans (entriesFrom_of_forall₂ hall start)
    · cases h.symm.trans (first.entriesFrom_eq start)
      exact ⟨index, fault, first, rfl⟩
  · rintro ⟨index, fault, first, rfl⟩
    exact first.entriesFrom_eq start

end Elements

/-! ### Reading a database -/

section Reading

variable {host : Host} {fs : FileSystem} {database : Path} {content : Octets} {value : Json}

theorem read_of_json (found : fs.read host database = .ok content)
    (decoded : json database content = .ok value) :
    read host fs database = entries database value := by
  rw [read, found]
  dsimp only
  rw [decoded]

theorem entries_ok_iff {all : List Entry} :
    entries database value = .ok all ↔
      ∃ items, value = .array items ∧ List.Forall₂ IsEntry items all := by
  cases value with
  | array items => simp [entries, entriesFrom_ok_iff]
  | null | bool | number | string | object => exact iff_of_false nofun nofun

theorem entries_error_iff {failure : Failure} : entries database value = .error failure ↔
    ((∀ items, value ≠ .array items) ∧ failure = .databaseShape database) ∨
    ∃ items index fault, value = .array items ∧ IsFirstOffence items index fault ∧
      failure = .entry index fault := by
  cases value with
  | array items => simp [entries, entriesFrom_error_iff]
  | null | bool | number | string | object => simp [entries, eq_comm]

/-- **A database is valid as a whole or not at all.** One whose content is a JSON value is read if
and only if the value is an array of entries, and what is read are these entries, in order.
Otherwise the value is no array, or what is reported is the first of its elements that is no entry,
by its index, and what is wrong with it. -/
theorem read_iff (found : fs.read host database = .ok content)
    (decoded : json database content = .ok value) :
    ((∃ all, read host fs database = .ok all) ↔
      ∃ items, value = .array items ∧ ∀ item ∈ items, ∃ entry, IsEntry item entry) ∧
    (∀ all, read host fs database = .ok all ↔
      ∃ items, value = .array items ∧ List.Forall₂ IsEntry items all) ∧
    ∀ failure, read host fs database = .error failure →
      failure.category = .database ∧
      (((∀ items, value ≠ .array items) ∧ failure = .databaseShape database) ∨
      ∃ items index fault, value = .array items ∧ IsFirstOffence items index fault ∧
        failure = .entry index fault ∧
        failure.message = "Entry " ++ toString index ++ " " ++ fault.message) := by
  rw [read_of_json found decoded]
  refine ⟨?_, fun all => entries_ok_iff, fun failure failed => ⟨?_, ?_⟩⟩
  · simp only [entries_ok_iff, ← exists_forall₂_iff]
    exact ⟨fun ⟨all, items, same, h⟩ => ⟨items, same, all, h⟩,
      fun ⟨items, same, all, h⟩ => ⟨all, items, same, h⟩⟩
  · obtain ⟨-, rfl⟩ | ⟨items, index, fault, -, -, rfl⟩ := entries_error_iff.mp failed <;> rfl
  · obtain shape | ⟨items, index, fault, rfl, first, rfl⟩ := entries_error_iff.mp failed
    · exact .inl shape
    · exact .inr ⟨items, index, fault, rfl, first, rfl, rfl⟩

/-- A database with an entry and an object without a directory. -/
def mixed : Octets :=
  ("[\x7b\"file\":\"a\",\"directory\":\"/\",\"arguments\":[\"c\"]\x7d," ++
    "\x7b\"file\":\"a\"\x7d]").toList.map fun c => UInt8.ofNat c.toNat

/-- The second element of the database is reported. -/
theorem read_iff_mixed :
    let fs := Sample.sources.put Sample.host Sample.places.database (.file mixed 1000 false)
    read Sample.host fs Sample.places.database = .error (.entry 1 .missingPlace) ∧
      ∃ items, json Sample.places.database mixed = .ok (.array items) ∧
        IsFirstOffence items 1 .missingPlace := by
  intro fs
  have found : fs.read Sample.host Sample.places.database = .ok mixed := by decide +kernel
  have failed : read Sample.host fs Sample.places.database =
      .error (.entry 1 .missingPlace) := by decide +kernel
  cases decoded : json Sample.places.database mixed with
  | error failure =>
    have spelled : (json Sample.places.database mixed).isOk = true := by decide +kernel
    rw [decoded] at spelled
    cases spelled
  | ok value =>
    obtain ⟨-, -, errors⟩ := read_iff found decoded
    obtain ⟨-, ⟨-, shape⟩ | ⟨items, index, fault, rfl, first, met, -⟩⟩ := errors _ failed
    · cases shape
    · cases met
      exact ⟨failed, items, rfl, first⟩

end Reading

end Database

end ArtifactLens
