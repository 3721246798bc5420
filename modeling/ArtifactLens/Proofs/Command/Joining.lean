import ArtifactLens.Proofs.Command.Layout
import ArtifactLens.Proofs.Command.Recipe

/-!
# Joining words again

The words of a command are joined by blanks for the shell. **Splitting what was joined gives the
same words** (`Words.split_rejoined`), whatever the command was.

Joining changes what stands around a word: blanks take the place of what was left out, dropped
double quotes included, and words that touched are set apart. None of this matters. A word with a
span that is closed ends where it did, whatever follows. A word with a span that is not closed had
no double quote behind it in the command, so it has none behind it in the words that follow
(`Words.IsRead.isReadable`). Hence every spaced layout of the same words is split like the command
(`Words.splitFrom_relaid`), and joining makes one of them (`Words.Layout.joined`).
-/

namespace ArtifactLens

namespace Words

namespace Layout

variable {layout other : Layout} {gap word : List Char} {words : List (List Char)} {c : Char}

theorem mem_text_of_mem_word (hword : word ∈ layout.words) (hc : c ∈ word) : c ∈ layout.text := by
  obtain ⟨part, hpart, rfl⟩ := List.mem_map.mp hword
  have hlaid : c ∈ laid layout.parts :=
    List.mem_flatMap.mpr ⟨part, hpart, List.mem_append_left _ hc⟩
  exact List.mem_append_right _ hlaid

/-- Whether a layout is readable depends on its words alone. -/
theorem IsReadable.of_words (h : layout.IsReadable) (same : other.words = layout.words) :
    other.IsReadable where
  words := same ▸ h.words
  quotes := same ▸ h.quotes

/-- Words, each but the last with the same gap behind it. -/
@[grind =]
def joinedParts (gap : List Char) : List (List Char) → List (List Char × List Char)
  | [] => []
  | [word] => [(word, [])]
  | word :: next :: rest => (word, gap) :: joinedParts gap (next :: rest)

/-- The layout of words with the same gap between any two. -/
def joined (gap : List Char) (words : List (List Char)) : Layout := ⟨[], joinedParts gap words⟩

theorem words_joined : (joined gap words).words = words := by
  rw [joined, Layout.words]
  fun_induction joinedParts gap words with
  | case1 | case2 => rfl
  | case3 word next rest ih => rw [List.map_cons, ih]

theorem text_joined : (joined gap words).text = List.intercalate gap words := by
  rw [joined, text, List.nil_append, laid]
  fun_induction joinedParts gap words with
  | case1 => rfl
  | case2 word => simp
  | case3 word next rest ih =>
    rw [List.flatMap_cons, ih, List.intercalate_cons_cons]

/-- A word of joined words has the gap behind it, and the last one nothing. -/
private theorem gap_joinedParts {part : List Char × List Char} (h : part ∈ joinedParts gap words) :
    part.2 = gap ∨ part.2 = [] := by
  fun_induction joinedParts gap words with
  | case1 => cases h
  | case2 word =>
    rw [List.mem_singleton.mp h]
    exact .inr rfl
  | case3 word next rest ih =>
    obtain rfl | hrest := List.mem_cons.mp h
    · exact .inl rfl
    · exact ih hrest

private theorem gap_dropLast_joinedParts {part : List Char × List Char}
    (h : part ∈ (joinedParts gap words).dropLast) : part.2 = gap := by
  fun_induction joinedParts gap words with
  | case1 | case2 => cases h
  | case3 word next rest ih =>
    have more : joinedParts gap (next :: rest) ≠ [] := by
      cases rest <;> simp [joinedParts]
    rw [List.dropLast_cons_of_ne_nil more] at h
    obtain rfl | hrest := List.mem_cons.mp h
    · rfl
    · exact ih hrest

theorem isSpaced_joined (blank : ∀ c ∈ gap, isBlank c = true) (ne_nil : gap ≠ []) :
    (joined gap words).IsSpaced where
  lead := nofun
  gaps := by
    intro part hpart c hc
    obtain hgap | hnone := gap_joinedParts hpart
    · exact blank c (hgap ▸ hc)
    · rw [hnone] at hc
      cases hc
  apart := by
    intro part hpart
    rw [gap_dropLast_joinedParts hpart]
    exact ne_nil

end Layout

/-- **What was read is readable**: no double quote stands behind a word with a span that is not
closed. -/
theorem IsRead.isReadable {layout : Layout} (read : IsRead layout) : layout.IsReadable := by
  induction read with
  | nil => exact ⟨nofun, .nil⟩
  | gap _ _ ih => exact ih.of_words Layout.words_withGap
  | word split _ _ ih =>
    constructor
    · exact List.forall_mem_cons.mpr ⟨split.imp_right And.left, ih.words⟩
    · refine List.pairwise_cons.mpr ⟨fun later hlater hopen hquote => ?_, ih.quotes⟩
      obtain hword | ⟨-, free⟩ := split
      · exact hword.not_isSuffix hopen.isSuffix
      · exact free (Layout.mem_text_of_mem_word hlater hquote)

/-- A spaced layout of the words of a text is split like the text. -/
theorem splitFrom_relaid {text : List Char} {layout : Layout} (spaced : layout.IsSpaced)
    (words : layout.words = splitFrom [] text) :
    splitFrom [] layout.text = splitFrom [] text := by
  have same : layout.words = (Words.layout text).words := words.trans (words_layout text).symm
  have readable : layout.IsReadable := (isRead_layout text).isReadable.of_words same
  rw [(splitFrom_text_iff spaced).mpr readable, words]

/-- The words of a command may be joined by any blanks. -/
theorem split_intercalate {gap : String} (blank : ∀ c ∈ gap.toList, isBlank c = true)
    (nonempty : gap.toList ≠ []) (command : String) :
    split (String.intercalate gap (split command)) = split command := by
  have listed : splitFrom [] command.toList = (split command).map String.toList :=
    split_eq_iff.mp rfl
  have spaced : (Layout.joined gap.toList ((split command).map String.toList)).IsSpaced :=
    Layout.isSpaced_joined blank nonempty
  have relaid := splitFrom_relaid spaced (Layout.words_joined.trans listed.symm)
  rw [split_eq_iff, String.toList_intercalate, ← Layout.text_joined, relaid, listed]

/-- **Splitting undoes joining the words of a command.** Every command is split into words which,
joined by single blanks, are split into the same words again. -/
theorem split_rejoined (command : String) :
    split (String.intercalate " " (split command)) = split command := by
  refine split_intercalate (fun c hc => ?_) (by decide) command
  rw [show c = ' ' by simpa using hc]
  exact isBlank_space

/-- The second word begins where a span ends, the third double quote is left out, and the last word
but two has a span that is not closed. -/
example : split "a\"b\"c\"\" d\\\"1 2" = ["a\"b\"", "c", "\" d\\\"", "1", "2"] := by
  decide +kernel

end Words

end ArtifactLens
