import ArtifactLens.Artifact.Kind
import ArtifactLens.Proofs.Command.OutputControl
import ArtifactLens.Proofs.Command.Words

/-!
# The words of a recipe

A recipe is made by joining words: the compiler, the flags of the kind, the arguments of the
compile command and the quoted artifact. It is split into these words again if and only if the
compiler and every argument are words, and every double quote in the path of the artifact is
escaped (`CompileCommand.split_recipe_iff`).

An entry that gives its command as one text has words by itself, but for those that end at an
escaped double quote, which would close no span if another double quote followed. The arguments of
an entry that lists them are taken as they are, and may be torn apart
(`CompileCommand.split_recipe_torn`).
-/

namespace ArtifactLens

namespace Words

/-- The words of a text are the given ones, as texts. -/
theorem split_eq_iff {command : String} {words : List String} :
    split command = words ↔ splitFrom [] command.toList = words.map String.toList := by
  rw [split]
  constructor
  · rintro rfl
    simp [Function.comp_def]
  · intro h
    rw [h]
    simp [Function.comp_def]

end Words

/-- The text of a path is not empty. -/
theorem Path.text_ne_empty (path : Path) : path.text ≠ "" := by
  rw [Path.text]
  split_ifs with h
  · decide
  · exact h

open Words

/-- The flags of a kind are words. -/
theorem Kind.isWord_flags (kind : Kind) : ∀ flag ∈ kind.flags, IsWord flag.toList := by
  have plain : ∀ flag ∈ kind.flags, flag.toList ≠ [] ∧
      flag.toList.all (fun c => decide (IsPlain c)) = true := by
    cases kind <;> decide
  exact fun flag hflag => isWord_of_all (plain flag hflag).1 (plain flag hflag).2

namespace Entry

/-- The words of a command that is one text are tokens. -/
theorem isToken_of_mem_words {entry : Entry} {text : String} (one : entry.command = some text)
    (nonempty : text ≠ "") {word : String} (h : word ∈ entry.words) : IsToken word.toList := by
  rw [words, one] at h
  simp only [if_neg nonempty, split, List.mem_map] at h
  obtain ⟨token, htoken, rfl⟩ := h
  rw [String.toList_ofList]
  exact isToken_of_mem htoken

/-- The compiler and the arguments of a compile command are among the words of its entry. -/
theorem mem_words_of_command? {host : Host} {entry : Entry} {command : CompileCommand}
    (accepted : entry.command? host = some command) {arg : String}
    (h : arg ∈ command.compiler :: command.args) : arg ∈ entry.words := by
  rw [command?] at accepted
  cases hwords : entry.words with
  | nil => simp [hwords] at accepted
  | cons compiler args =>
    simp only [hwords, Option.some.injEq] at accepted
    subst accepted
    exact List.mem_cons.mpr ((List.mem_cons.mp h).imp_right mem_of_mem_dropOutputControl)

end Entry

namespace CompileCommand

private theorem toList_recipe (command : CompileCommand) (kind : Kind) (artifact : Path) :
    (command.recipe kind artifact).toList =
      List.intercalate [' ']
        ((command.compiler :: kind.flags ++ command.args ++ ["-o"]).map String.toList ++
          [quoted artifact.text.toList]) := by
  rw [recipe, String.toList_intercalate]
  simp [quoted]

/-- **The words of a recipe.** Splitting the recipe of an accepted entry gives back the compiler,
the flags of the kind, each argument as one word, and the quoted artifact, if and only if the
compiler and the arguments are words and the double quotes in the path of the artifact are escaped.
What comes from a command that is one text is a word unless it ends at an escaped double quote. -/
theorem split_recipe_iff {host : Host} {entry : Entry} {command : CompileCommand}
    (accepted : entry.command? host = some command) (kind : Kind) (artifact : Path) :
    (Words.split (command.recipe kind artifact) =
        command.compiler :: kind.flags ++ command.args ++ ["-o", "\"" ++ artifact.text ++ "\""] ↔
      (∀ arg ∈ command.compiler :: command.args, IsWord arg.toList) ∧
        Escaped artifact.text.toList) ∧
    ∀ text, entry.command = some text → text ≠ "" →
      ∀ arg ∈ command.compiler :: command.args,
        IsWord arg.toList ↔ ¬['\\', '"'] <:+ arg.toList := by
  refine ⟨?_, fun text one nonempty arg harg => ?_⟩
  swap
  · have hmem : arg ∈ entry.words := Entry.mem_words_of_command? accepted harg
    exact (Entry.isToken_of_mem_words one nonempty hmem).isWord_iff
  have hparts : (command.compiler :: kind.flags ++ command.args ++
        ["-o", "\"" ++ artifact.text ++ "\""]).map String.toList =
      (command.compiler :: kind.flags ++ command.args ++ ["-o"]).map String.toList ++
        [quoted artifact.text.toList] := by
    simp [quoted]
  have hartifact : artifact.text.toList ≠ [] := by
    simpa using artifact.text_ne_empty
  have houtput : IsWord "-o".toList := isWord_of_all (by decide) (by decide)
  rw [split_eq_iff, toList_recipe, hparts, splitFrom_intercalate_iff]
  have hwords : (∀ word ∈ (command.compiler :: kind.flags ++ command.args ++ ["-o"]).map
        String.toList, IsWord word) ↔
      ∀ arg ∈ command.compiler :: command.args, IsWord arg.toList := by
    constructor
    · intro h arg harg
      refine h arg.toList (List.mem_map_of_mem ?_)
      rw [List.mem_append, List.mem_append, List.mem_cons]
      exact .inl ((List.mem_cons.mp harg).imp_left .inl)
    · intro h word hword
      obtain ⟨word, hmem, rfl⟩ := List.mem_map.mp hword
      rw [List.mem_append, List.mem_append, List.mem_cons, List.mem_singleton] at hmem
      obtain ((hcompiler | hflag) | harg) | rfl := hmem
      · exact h word (List.mem_cons.mpr (.inl hcompiler))
      · exact kind.isWord_flags word hflag
      · exact h word (List.mem_cons_of_mem _ harg)
      · exact houtput
  rw [hwords]
  exact and_congr_right fun _ => and_iff_right hartifact

/-- In the listing of a source, an argument with a blank between double quotes is one word. -/
theorem split_recipe_spaced :
    let host : Host := ⟨⟨.root, []⟩, "/", []⟩
    let entry : Entry := ⟨"a", "/", some "c -c -D\"x y\" a", none⟩
    let command : CompileCommand := ⟨⟨.root, [⟨"a", by decide⟩]⟩, ⟨.root, []⟩, "c",
      ["-D\"x y\"", "a"]⟩
    entry.command? host = some command ∧
      Words.split (command.recipe .preprocessed command.source) =
        ["c", "-E", "-D\"x y\"", "a", "-o", "\"/a\""] := by
  intro host entry command
  have accepted : entry.command? host = some command := by decide +kernel
  refine ⟨accepted, ?_⟩
  obtain ⟨hsplit, hwords⟩ := split_recipe_iff accepted .preprocessed command.source
  refine hsplit.mpr ⟨fun arg harg => ?_, .of_not_mem (by decide +kernel)⟩
  rw [hwords _ rfl (by decide) arg harg]
  revert arg
  decide +kernel

/-- **An argument with a blank is torn apart.** An entry that lists its arguments is accepted, with
an argument that holds a blank, and its recipe has two words in place of this argument. The same
happens to the words of a command that is one text where one ends at an escaped double quote. -/
theorem split_recipe_torn :
    let host : Host := ⟨⟨.root, []⟩, "/", []⟩
    let source : Path := ⟨.root, [⟨"a", by decide⟩]⟩
    let listed : Entry := ⟨"a", "/", none, some ["c", "-Dx y"]⟩
    let one : Entry := ⟨"a", "/", some "c -D\\\"x\\\" a", none⟩
    listed.command? host = some ⟨source, ⟨.root, []⟩, "c", ["-Dx y"]⟩ ∧
      Words.split (CompileCommand.recipe ⟨source, ⟨.root, []⟩, "c", ["-Dx y"]⟩ .preprocessed
        source) = ["c", "-E", "-Dx", "y", "-o", "\"/a\""] ∧
      one.command? host = some ⟨source, ⟨.root, []⟩, "c", ["-D\\\"x\\\"", "a"]⟩ ∧
      Words.split (CompileCommand.recipe ⟨source, ⟨.root, []⟩, "c", ["-D\\\"x\\\"", "a"]⟩
        .preprocessed source) = ["c", "-E", "-D\\\"x\\\" a -o \"", "/a"] := by
  decide +kernel

end CompileCommand

end ArtifactLens
