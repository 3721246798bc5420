import ArtifactLens.Document
import ArtifactLens.Proofs.Listing
import ArtifactLens.Proofs.Table

/-!
# Documents of builds

The document of an artifact shows what the build left, or the message of a build that failed, or
why what was built cannot be read. No error of a document is without text.

**A document cannot be made** for four reasons (`Document.build_error_iff_unmade`): the session
stumbles over its database, there is no record of the artifact, the tools give up on it, or it
misreads.

**The mapping of a document indexes the text that is shown** (`Document.build_indexes`). It is made
line by line, and what it holds after some lines is known in full (`Listing.get?_mapping`): a source
line has the indexes of its lines, in order, and the source lines come as their first lines do
(`Listing.Indexes`). Rendered lines have no newlines, so that cutting the text at its newlines gives
the lines back.
-/

namespace ArtifactLens

variable {σ : Type}

namespace Document

variable {tools : Toolchain σ} {binary : Bool} {artifact : Path} {session later : Session}
  {world after : World σ} {result : BuildResult}

theorem build_of_success
    (compile : session.compile tools artifact world = (.ok result, later, after))
    (success : result.success = true) :
    build tools binary artifact session world =
      (ofFile after.host after.files binary artifact, later, after) := by
  rw [build, compile]
  exact if_pos success

theorem build_of_failure
    (compile : session.compile tools artifact world = (.ok result, later, after))
    (failure : result.success = false) :
    build tools binary artifact session world =
      (.ok (failed artifact result.message), later, after) := by
  rw [build, compile]
  exact if_neg (Bool.eq_false_iff.mp failure)

theorem build_of_error {failure : Failure}
    (failed : (session.compile tools artifact world).1 = .error failure) :
    (build tools binary artifact session world).1 = .error failure := by
  rcases compile : session.compile tools artifact world with ⟨answer, later, after⟩
  obtain rfl : answer = .error failure := by rw [← failed, compile]
  rw [build, compile]

/-- The document of a file shows its lines and maps them, or tells why the file cannot be read. -/
theorem ofFile_cases {host : Host} {files : FileSystem} {document : Document}
    (made : ofFile host files binary artifact = .ok document) :
    (∃ content lines, files.read host artifact = .ok content ∧
      Listing.parse binary (Lines.normalize (Utf8.decodeLossy content)) = .ok lines ∧
      document = { artifact, lines, mapping := Listing.mapping lines }) ∨
    ∃ fault : FileFault,
      document = failed artifact ("Cannot read " ++ artifact.text ++ ": " ++ fault.message) := by
  rw [ofFile] at made
  cases read : files.read host artifact with
  | error fault =>
    rw [read] at made
    exact .inr ⟨fault, (Except.ok.inj made).symm⟩
  | ok content =>
    rw [read] at made
    dsimp only at made
    cases parsed : Listing.parse binary (Lines.normalize (Utf8.decodeLossy content)) with
    | error digits =>
      rw [parsed] at made
      cases made
    | ok lines =>
      rw [parsed] at made
      exact .inl ⟨content, lines, rfl, parsed, (Except.ok.inj made).symm⟩

end Document

/-! ### Documents that cannot be made -/

/-- The artifact is built or up to date, and a line number in it has too many digits. -/
def Session.Misreads (tools : Toolchain σ) (artifact : Path) (session : Session) (world : World σ)
    (digits : Nat) : Prop :=
  ∃ result later after content, session.compile tools artifact world = (.ok result, later, after) ∧
    result.success = true ∧ after.files.read after.host artifact = .ok content ∧
      Listing.overlong? content = some digits

/-- The artifact is stale, and the tools give up on it. -/
def Session.Abandons (tools : Toolchain σ) (artifact : Path) (session : Session) (world : World σ)
    (failure : Failure) : Prop :=
  ∃ later after record, session.refresh world = (.ok (), later, after) ∧
    later.registry.recordFor artifact = some record ∧
    record.needsBuild after.host after.files later.extraArgs later.database = true ∧
    (tools.execute record later.extraArgs after).1 = .error failure

/-- Why an artifact cannot be compiled. -/
inductive Session.Uncompiled (tools : Toolchain σ) (artifact : Path) (session : Session)
    (world : World σ) : Failure → Prop
  | stumbles {digits : Nat} (h : session.Stumbles world digits) :
      Uncompiled tools artifact session world (.longInteger digits)
  | unknown {later : Session} {after : World σ}
      (refresh : session.refresh world = (.ok (), later, after))
      (missing : later.registry.recordFor artifact = none) :
      Uncompiled tools artifact session world (.noRecord artifact)
  | abandoned {failure : Failure} (h : session.Abandons tools artifact world failure) :
      Uncompiled tools artifact session world failure

/-- Why the document of an artifact cannot be made. -/
inductive Document.Unmade (tools : Toolchain σ) (artifact : Path) (session : Session)
    (world : World σ) : Failure → Prop
  | uncompiled {failure : Failure} (h : session.Uncompiled tools artifact world failure) :
      Unmade tools artifact session world failure
  | misreads {digits : Nat} (h : session.Misreads tools artifact world digits) :
      Unmade tools artifact session world (.longInteger digits)

section

variable {tools : Toolchain σ} {artifact : Path} {session : Session} {world : World σ}
  {failure : Failure}

theorem Document.ofFile_error_iff {host : Host} {files : FileSystem} {binary : Bool} :
    Document.ofFile host files binary artifact = .error failure ↔
      ∃ digits content, failure = .longInteger digits ∧ files.read host artifact = .ok content ∧
        Listing.overlong? content = some digits := by
  rw [ofFile]
  cases files.read host artifact with
  | error fault =>
    refine iff_of_false nofun ?_
    rintro ⟨_, _, -, found, -⟩
    cases found
  | ok content =>
    dsimp only
    cases hparse : Listing.parse binary (Lines.normalize (Utf8.decodeLossy content)) with
    | error digits =>
      have long := Listing.parse_error_iff.mp hparse
      constructor
      · intro h
        exact ⟨digits, content, (Except.error.inj h).symm, rfl, long⟩
      · rintro ⟨digits, content, rfl, found, again⟩
        obtain rfl := Except.ok.inj found
        obtain rfl := Option.some.inj (long.symm.trans again)
        rfl
    | ok lines =>
      refine iff_of_false nofun ?_
      rintro ⟨digits, content, -, found, long⟩
      obtain rfl := Except.ok.inj found
      cases hparse.symm.trans (Listing.parse_error_iff.mpr long)

/-- **A compilation fails** if and only if the session stumbles over its database, has no record of
the artifact, or the tools give up on it. -/
theorem Session.compile_error_iff_uncompiled :
    (session.compile tools artifact world).1 = .error failure ↔
      session.Uncompiled tools artifact world failure := by
  constructor
  · intro failed
    have hcompiled := session.compiled tools artifact world
    generalize session.compile tools artifact world = step at hcompiled failed
    cases hcompiled with
    | broken met later after refresh =>
      obtain rfl := Except.error.inj failed
      obtain ⟨digits, rfl, h⟩ := refresh_error_iff.mp (congrArg Prod.fst refresh)
      exact .stumbles h
    | unknown later after refresh missing =>
      obtain rfl := Except.error.inj failed
      exact .unknown refresh missing
    | upToDate => cases failed
    | executed later after record refresh found stale =>
      exact .abandoned ⟨later, after, record, refresh, found, stale, failed⟩
  · rintro (h | ⟨refresh, missing⟩ | ⟨later, after, record, refresh, found, stale, failed⟩)
    · have failed := refresh_error_iff.mpr ⟨_, rfl, h⟩
      rcases refresh : session.refresh world with ⟨answer, later, after⟩
      rw [refresh] at failed
      obtain rfl : answer = .error _ := failed
      rw [compile, recordFor, query, refresh]
    · rw [compile_of_unknown tools refresh missing]
    · rw [compile_of_stale tools refresh found stale, failed]

theorem Session.not_uncompiled {later : Session} {after : World σ} {result : BuildResult}
    (compile : session.compile tools artifact world = (.ok result, later, after)) :
    ¬session.Uncompiled tools artifact world failure := by
  intro h
  have failed := compile_error_iff_uncompiled.mpr h
  rw [compile] at failed
  cases failed

/-- **A document cannot be made** if and only if the artifact cannot be compiled, or is compiled and
misreads. -/
theorem Document.build_error_iff_unmade (binary : Bool) :
    (build tools binary artifact session world).1 = .error failure ↔
      Unmade tools artifact session world failure := by
  rcases compile : session.compile tools artifact world with ⟨met | result, later, after⟩
  · have hcompile : (session.compile tools artifact world).1 = .error failure ↔ _ :=
      Session.compile_error_iff_uncompiled
    have failed : (build tools binary artifact session world).1 = .error met :=
      build_of_error (congrArg Prod.fst compile)
    rw [compile] at hcompile
    rw [failed]
    constructor
    · intro h
      exact .uncompiled (hcompile.mp (congrArg Except.error (Except.error.inj h)))
    · rintro (h | ⟨result, last, final, content, again, -⟩)
      · exact congrArg Except.error (Except.error.inj (hcompile.mpr h))
      · cases compile.symm.trans again
  · have compiled : ¬session.Uncompiled tools artifact world failure :=
      Session.not_uncompiled compile
    cases success : result.success with
    | false =>
      rw [build_of_failure compile success]
      refine iff_of_false nofun ?_
      rintro (h | ⟨_, _, _, _, again, done, -⟩)
      · exact compiled h
      · cases compile.symm.trans again
        cases success.symm.trans done
    | true =>
      rw [build_of_success compile success, ofFile_error_iff]
      constructor
      · rintro ⟨digits, content, rfl, found, long⟩
        exact .misreads ⟨result, later, after, content, compile, success, found, long⟩
      · rintro (h | ⟨_, _, _, content, again, -, found, long⟩)
        · exact absurd h compiled
        · cases compile.symm.trans again
          exact ⟨_, content, rfl, found, long⟩

end

/-! ### Source mappings -/

namespace Listing

/-- A line that belongs to one source line comes before all that belong to another. -/
def StartsBefore (lines : List Line) (number other : Nat) : Prop :=
  ∃ (i : Nat) (line : Line), lines[i]? = some line ∧ line.sourceLine = some number ∧
    ∀ (j : Nat) (later : Line), lines[j]? = some later → later.sourceLine = some other → i < j

/-- The table lists the indexes of lines under their source lines. -/
structure Indexes (lines : List Line) (mapping : Table Nat (List Nat)) : Prop where
  /-- An index is listed under the source line of its line, and nowhere else. -/
  listed : ∀ i number, (∃ indexes, mapping.get? number = some indexes ∧ i ∈ indexes) ↔
    ∃ line, lines[i]? = some line ∧ line.sourceLine = some number
  /-- No index is listed twice. -/
  once : mapping.values.flatten.Nodup
  increasing : ∀ indexes ∈ mapping.values, indexes.Pairwise (· < ·)
  /-- The keys are the source lines of lines. -/
  keys : ∀ number, number ∈ mapping.keys ↔ ∃ line ∈ lines, line.sourceLine = some number
  /-- The keys come in the order of their first lines. -/
  ordered : mapping.keys.Pairwise (StartsBefore lines)

/-- The indexes of the lines that belong to a source line. -/
def indexesOf (lines : List Line) (number : Nat) : List Nat :=
  (List.range lines.length).filter fun i => lines[i]?.bind Line.sourceLine = some number

section

variable {lines : List Line} {number i : Nat}

theorem mem_indexesOf_iff :
    i ∈ indexesOf lines number ↔ ∃ line, lines[i]? = some line ∧ line.sourceLine = some number := by
  rw [indexesOf, List.mem_filter, List.mem_range, decide_eq_true_eq, Option.bind_eq_some_iff]
  refine and_iff_right_of_imp ?_
  rintro ⟨line, found, -⟩
  exact (List.getElem?_eq_some_iff.mp found).1

theorem lt_length_of_mem_indexesOf (h : i ∈ indexesOf lines number) : i < lines.length :=
  List.mem_range.mp (List.mem_of_mem_filter h)

theorem pairwise_indexesOf : (indexesOf lines number).Pairwise (· < ·) :=
  List.pairwise_lt_range.filter _

theorem indexesOf_concat (lines : List Line) (last : Line) (number : Nat) :
    indexesOf (lines ++ [last]) number = indexesOf lines number ++
      if last.sourceLine = some number then [lines.length] else [] := by
  have before : (List.range lines.length).filter
      (fun i => (lines ++ [last])[i]?.bind Line.sourceLine = some number) =
        indexesOf lines number := by
    refine List.filter_congr fun i hi => ?_
    rw [List.getElem?_append_left (List.mem_range.mp hi)]
  have own : (lines ++ [last])[lines.length]? = some last := List.getElem?_concat_length
  rw [indexesOf, List.length_append, List.length_singleton, List.range_succ, List.filter_append,
    before, List.filter_singleton, own, Option.bind_some]
  by_cases h : last.sourceLine = some number <;> simp [h]

/-- Enters an index under the source line of its line, if it has one. -/
def enter (mapping : Table Nat (List Nat)) (index : Nat) : Option Nat → Table Nat (List Nat)
  | none => mapping
  | some number => mapping.insert number ((mapping.get? number).getD [] ++ [index])

theorem mappingFrom_cons (index : Nat) (table : Table Nat (List Nat)) (line : Line)
    (rest : List Line) : mappingFrom index table (line :: rest) =
      mappingFrom (index + 1) (enter table index line.sourceLine) rest := by
  rw [mappingFrom]
  cases line.sourceLine <;> rfl

private theorem mappingFrom_concat (index : Nat) (table : Table Nat (List Nat)) (lines : List Line)
    (last : Line) : mappingFrom index table (lines ++ [last]) =
      enter (mappingFrom index table lines) (index + lines.length) last.sourceLine := by
  induction lines generalizing index table with
  | nil => exact mappingFrom_cons index table last []
  | cons line rest ih =>
    rw [List.cons_append, mappingFrom_cons, ih, mappingFrom_cons, List.length_cons]
    congr 1
    omega

theorem mapping_concat (lines : List Line) (last : Line) :
    mapping (lines ++ [last]) = enter (mapping lines) lines.length last.sourceLine := by
  have := mappingFrom_concat 0 .empty lines last
  rwa [Nat.zero_add] at this

/-- A source line has the indexes of its lines, if there are any. -/
theorem get?_mapping (lines : List Line) (number : Nat) : (mapping lines).get? number =
    if indexesOf lines number = [] then none else some (indexesOf lines number) := by
  induction lines using List.reverseRecOn with
  | nil => rfl
  | append_singleton lines last ih =>
    rw [mapping_concat, indexesOf_concat]
    cases last.sourceLine with
    | none => simpa [enter] using ih
    | some own =>
      rw [enter, Table.get?_insert]
      by_cases same : own = number
      · subst same
        have known : ((mapping lines).get? own).getD [] = indexesOf lines own := by
          rw [ih]
          split_ifs with h
          · exact h.symm
          · rfl
        rw [if_pos rfl, if_pos rfl, known, if_neg (List.concat_ne_nil _ _)]
      · rw [if_neg same, if_neg fun h => same (Option.some.inj h), List.append_nil, ih]

theorem get?_mapping_eq_some_iff {indexes : List Nat} :
    (mapping lines).get? number = some indexes ↔
      indexes = indexesOf lines number ∧ indexes ≠ [] := by
  rw [get?_mapping]
  split_ifs with h
  · refine iff_of_false nofun ?_
    rintro ⟨rfl, nonempty⟩
    exact nonempty h
  · rw [Option.some.injEq, eq_comm]
    refine (and_iff_left_of_imp ?_).symm
    rintro rfl
    exact h

theorem nodup_keys_mapping (lines : List Line) : (mapping lines).keys.Nodup := by
  induction lines using List.reverseRecOn with
  | nil => exact List.nodup_nil
  | append_singleton lines last ih =>
    rw [mapping_concat]
    cases last.sourceLine with
    | none => exact ih
    | some own => exact Table.nodup_keys_insert ih own _

theorem mem_keys_mapping_iff :
    number ∈ (mapping lines).keys ↔ ∃ line ∈ lines, line.sourceLine = some number := by
  rw [Table.mem_keys_iff]
  simp only [get?_mapping_eq_some_iff]
  constructor
  · rintro ⟨_, rfl, nonempty⟩
    obtain ⟨i, hi⟩ := List.exists_mem_of_ne_nil _ nonempty
    obtain ⟨line, found, own⟩ := mem_indexesOf_iff.mp hi
    exact ⟨line, List.mem_of_getElem? found, own⟩
  · rintro ⟨line, hline, own⟩
    obtain ⟨i, found⟩ := List.mem_iff_getElem?.mp hline
    exact ⟨_, rfl, List.ne_nil_of_mem (mem_indexesOf_iff.mpr ⟨line, found, own⟩)⟩

theorem startsBefore_iff {other : Nat} : StartsBefore lines number other ↔
    ∃ i ∈ indexesOf lines number, ∀ j ∈ indexesOf lines other, i < j := by
  simp only [mem_indexesOf_iff]
  constructor
  · rintro ⟨i, line, found, own, before⟩
    exact ⟨i, ⟨line, found, own⟩, fun j ⟨later, there, others⟩ => before j later there others⟩
  · rintro ⟨i, ⟨line, found, own⟩, before⟩
    exact ⟨i, line, found, own, fun j later there others => before j ⟨later, there, others⟩⟩

/-- The keys come in the order of their first lines. -/
theorem pairwise_keys_mapping (lines : List Line) :
    (mapping lines).keys.Pairwise (StartsBefore lines) := by
  induction lines using List.reverseRecOn with
  | nil => exact List.Pairwise.nil
  | append_singleton lines last ih =>
    have mem_concat {number j : Nat} (h : j ∈ indexesOf (lines ++ [last]) number) :
        j ∈ indexesOf lines number ∨ j = lines.length := by
      rw [indexesOf_concat, List.mem_append] at h
      refine h.imp_right fun h => ?_
      split_ifs at h
      · exact List.mem_singleton.mp h
      · cases h
    have stays {number i : Nat} (h : i ∈ indexesOf lines number) :
        i ∈ indexesOf (lines ++ [last]) number := by
      rw [indexesOf_concat]
      exact List.mem_append_left _ h
    -- A line at the end comes after every first line there was.
    have older : (mapping lines).keys.Pairwise (StartsBefore (lines ++ [last])) := by
      refine ih.imp fun {number other} h => ?_
      obtain ⟨i, hi, before⟩ := startsBefore_iff.mp h
      refine startsBefore_iff.mpr ⟨i, stays hi, fun j hj => ?_⟩
      obtain hj | rfl := mem_concat hj
      · exact before j hj
      · exact lt_length_of_mem_indexesOf hi
    rw [mapping_concat]
    cases last.sourceLine with
    | none => exact older
    | some own =>
      rw [enter, Table.keys_insert]
      split_ifs with known
      · exact older
      · refine List.pairwise_append.mpr ⟨older, List.pairwise_singleton _ own, ?_⟩
        intro number hnumber other hother
        obtain rfl := List.mem_singleton.mp hother
        obtain ⟨line, hline, belongs⟩ := mem_keys_mapping_iff.mp hnumber
        obtain ⟨i, found⟩ := List.mem_iff_getElem?.mp hline
        have hi : i ∈ indexesOf lines number := mem_indexesOf_iff.mpr ⟨line, found, belongs⟩
        refine startsBefore_iff.mpr ⟨i, stays hi, fun j hj => ?_⟩
        obtain hj | rfl := mem_concat hj
        · obtain ⟨later, there, belongs⟩ := mem_indexesOf_iff.mp hj
          exact absurd (mem_keys_mapping_iff.mpr ⟨later, List.mem_of_getElem? there, belongs⟩) known
        · exact lt_length_of_mem_indexesOf hi

/-- **The mapping of lines lists their indexes.** -/
theorem indexes_mapping (lines : List Line) : Indexes lines (mapping lines) := by
  have entry {number : Nat} {indexes : List Nat}
      (h : (number, indexes) ∈ (mapping lines).entries) : indexes = indexesOf lines number :=
    (get?_mapping_eq_some_iff.mp
      (Table.get?_of_mem_entries (nodup_keys_mapping lines) h)).1
  have value {indexes : List Nat} (h : indexes ∈ (mapping lines).values) :
      ∃ number, indexes = indexesOf lines number := by
    obtain ⟨⟨number, indexes⟩, hentry, rfl⟩ := List.mem_map.mp h
    exact ⟨number, entry hentry⟩
  refine
    { listed := fun i number => ?_
      once := List.nodup_flatten.mpr ⟨?_, ?_⟩
      increasing := ?_
      keys := fun number => mem_keys_mapping_iff
      ordered := pairwise_keys_mapping lines }
  · rw [← mem_indexesOf_iff]
    constructor
    · rintro ⟨indexes, found, hi⟩
      rwa [← (get?_mapping_eq_some_iff.mp found).1]
    · intro hi
      exact ⟨_, get?_mapping_eq_some_iff.mpr ⟨rfl, List.ne_nil_of_mem hi⟩, hi⟩
  · intro indexes h
    obtain ⟨number, rfl⟩ := value h
    exact pairwise_indexesOf.imp fun h => h.ne
  · -- An index that two keys list would belong to two source lines.
    rw [Table.values, List.pairwise_map]
    have apart := nodup_keys_mapping lines
    rw [Table.keys, List.Nodup, List.pairwise_map] at apart
    refine apart.imp_of_mem fun {first second} hfirst hsecond ne i hi hi' => ne ?_
    rw [entry hfirst, mem_indexesOf_iff] at hi
    rw [entry hsecond, mem_indexesOf_iff] at hi'
    obtain ⟨line, found, own⟩ := hi
    obtain ⟨other, there, own'⟩ := hi'
    obtain rfl := Option.some.inj (found.symm.trans there)
    exact Option.some.inj (own.symm.trans own')
  · intro indexes h
    obtain ⟨number, rfl⟩ := value h
    exact pairwise_indexesOf

end

end Listing

/-! ### What a document maps -/

namespace Document

variable {tools : Toolchain σ} {binary : Bool} {artifact : Path} {session later : Session}
  {world after : World σ} {document : Document}

/-- A document of lines, split at newlines, has one piece for each of them. -/
theorem splitOn_render (ok : document.error = none) (nonempty : document.lines ≠ [])
    (free : ∀ line ∈ document.lines, '\n' ∉ line.render.toList) :
    document.render.toList.splitOn '\n' = document.lines.map fun line => line.render.toList := by
  have pieces : document.render.toList = List.intercalate ['\n']
      (document.lines.map fun line => line.render.toList) := by
    rw [render, ok]
    simp only [String.toList_intercalate, List.map_map]
    rfl
  rw [pieces]
  refine List.splitOn_intercalate '\n' ?_ (by simpa using nonempty)
  simpa using free

/-- **The mapping of a document.** The document of a build has an error, and then neither lines nor
a mapping, or it has the lines of what was built, and the mapping lists their indexes, from the
first directive on. Unless there are no lines, the rendered text is cut by its newlines into the
rendered lines, so that the indexes are those of the lines that are shown. -/
theorem build_indexes (made : build tools binary artifact session world =
      (.ok document, later, after)) :
    (document.error ≠ none ∧ document.lines = [] ∧ document.mapping = .empty) ∨
    (document.error = none ∧ Listing.Indexes document.lines document.mapping ∧
      (∃ content, after.files.read after.host artifact = .ok content ∧
        let text := Lines.normalize (Utf8.decodeLossy content)
        Listing.parse binary text = .ok document.lines ∧
        ∀ i line number, (Lines.split text)[i]? = some line → Listing.Directs line number →
          ∀ j < document.lines.length, i ≤ j →
            ∃ source indexes, document.mapping.get? source = some indexes ∧ j ∈ indexes) ∧
      (document.lines ≠ [] → document.render.toList.splitOn '\n' =
        document.lines.map fun line => line.render.toList)) := by
  rcases compile : session.compile tools artifact world with ⟨failure | result, next, reached⟩
  · have failed : (build tools binary artifact session world).1 = .error failure :=
      build_of_error (congrArg Prod.fst compile)
    rw [made] at failed
    cases failed
  cases success : result.success with
  | false =>
    cases (build_of_failure compile success).symm.trans made
    exact .inl ⟨nofun, rfl, rfl⟩
  | true =>
    rw [build_of_success compile success, Prod.mk.injEq, Prod.mk.injEq] at made
    obtain ⟨made, rfl, rfl⟩ := made
    obtain ⟨content, lines, read, parsed, rfl⟩ | ⟨fault, rfl⟩ := ofFile_cases made
    swap
    · exact .inl ⟨nofun, rfl, rfl⟩
    have indexes := Listing.indexes_mapping lines
    refine .inr ⟨rfl, indexes, ⟨content, read, parsed, ?_⟩, fun nonempty => ?_⟩
    · intro i line number found directs j within from_
      obtain ⟨source, own⟩ := Listing.exists_sourceLine_of_directs parsed found directs from_
        (List.getElem?_eq_getElem within)
      exact ⟨source, (indexes.listed j source).mpr ⟨_, List.getElem?_eq_getElem within, own⟩⟩
    · exact splitOn_render rfl nonempty fun line hline =>
        Listing.newline_not_mem_render_of_parse parsed hline

end Document

/-- A compiler whose listing has a directive in its second line. -/
def Sample.directing : Toolchain Unit where
  run _ _ files _ :=
    let text := "nop\n.loc 1 7\nret\n".toList.map fun c => UInt8.ofNat c.toNat
    (.ok ⟨"", "", some 0⟩, files.put host artifact (.file text 2000 false), ())
  demangle _ files := (.ok (), files)

open Sample in
/-- In the small project, the lines from the directive on are those of source line 7. -/
theorem Document.build_indexes_directive :
    let lines : List Listing.Line := [⟨"nop", none, none⟩, ⟨".loc 1 7", none, some 7⟩,
      ⟨"ret", none, some 7⟩]
    let document : Document := { artifact := Sample.artifact, lines, mapping := ⟨[(7, [1, 2])]⟩ }
    (build directing false Sample.artifact (Session.start places) newWorld).1 = .ok document ∧
      Listing.Indexes document.lines document.mapping ∧
      document.render.toList.splitOn '\n' = document.lines.map fun line => line.render.toList := by
  intro lines document
  have shown : (build directing false Sample.artifact (Session.start places) newWorld).1 =
      .ok document := by decide +kernel
  obtain ⟨failed, -⟩ | ⟨-, indexes, -, pieces⟩ := build_indexes (Prod.ext shown rfl)
  · exact absurd rfl failed
  · exact ⟨shown, indexes, pieces (List.cons_ne_nil _ _)⟩

end ArtifactLens
