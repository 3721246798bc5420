import ArtifactLens.Proofs.Command.Words

/-!
# Words and what stands between them

A layout (`Words.Layout`) is a text cut into words and the gaps around them. It is spaced
(`Words.Layout.IsSpaced`) if the gaps are blank and two words never touch.

* **Joining and splitting** (`Words.splitFrom_text_iff`): the words of a spaced layout are split off
  its text again if and only if each is a word or has a span that is not closed, with no double
  quote behind the latter. In particular splitting undoes joining (`Words.split_text`).
* **Reading** (`Words.layout`): the layout that splitting makes of a text. It is built up from
  the end of the text (`Words.IsRead`), and this alone is what later proofs go by.
* **What is lost** (`Words.split_spaced_iff`): only blanks and double quotes are ever left out, and
  words only touch where one ends in a double quote. Nothing but blanks is left out, and no two
  words touch, if and only if the text is a spaced layout of such words.
-/

namespace ArtifactLens

namespace Words

/-- A text cut into words and the gaps around them. -/
structure Layout where
  /-- What stands before the first word. -/
  lead : List Char
  /-- Each word with the gap behind it. -/
  parts : List (List Char × List Char)
  deriving DecidableEq

namespace Layout

/-- The text of words and their gaps. -/
def laid (parts : List (List Char × List Char)) : List Char :=
  parts.flatMap fun part => part.1 ++ part.2

/-- The text that a layout cuts. -/
def text (layout : Layout) : List Char := layout.lead ++ laid layout.parts

/-- The words of a layout, in order. -/
def words (layout : Layout) : List (List Char) := layout.parts.map Prod.fst

/-- All gaps are blank, and only the last word may have none behind it. -/
structure IsSpaced (layout : Layout) : Prop where
  lead : ∀ c ∈ layout.lead, isBlank c = true
  gaps : ∀ part ∈ layout.parts, ∀ c ∈ part.2, isBlank c = true
  apart : ∀ part ∈ layout.parts.dropLast, part.2 ≠ []

theorem isSpaced_iff {layout : Layout} : layout.IsSpaced ↔ layout.lead.all isBlank = true ∧
    layout.parts.all (fun part => part.2.all isBlank) = true ∧
      ∀ part ∈ layout.parts.dropLast, part.2 ≠ [] := by
  simp only [List.all_eq_true]
  exact ⟨fun h => ⟨h.lead, h.gaps, h.apart⟩, fun h => ⟨h.1, h.2.1, h.2.2⟩⟩

instance (layout : Layout) : Decidable layout.IsSpaced := decidable_of_iff _ isSpaced_iff.symm

/-- Each word is one, or has a span that is not closed and no double quote in the words behind. -/
structure IsReadable (layout : Layout) : Prop where
  words : ∀ word ∈ layout.words, IsWord word ∨ IsOpen word
  quotes : layout.words.Pairwise fun word later => IsOpen word → '"' ∉ later

/-- The gaps hold blanks and double quotes only, and a word that touches the next ends in a double
quote. -/
structure IsLoose (layout : Layout) : Prop where
  lead : ∀ c ∈ layout.lead, isBlank c = true ∨ c = '"'
  gaps : ∀ part ∈ layout.parts, ∀ c ∈ part.2, isBlank c = true ∨ c = '"'
  touch : ∀ part ∈ layout.parts.dropLast, part.2 = [] → part.1.getLast? = some '"'

variable {lead gap word : List Char} {parts : List (List Char × List Char)}

@[simp]
theorem text_nil : (⟨lead, []⟩ : Layout).text = lead := by
  simp [text, laid]

@[simp]
theorem text_cons : (⟨lead, (word, gap) :: parts⟩ : Layout).text =
    lead ++ (word ++ (⟨gap, parts⟩ : Layout).text) := by
  simp [text, laid]

@[simp]
theorem words_nil : (⟨lead, []⟩ : Layout).words = [] := rfl

@[simp]
theorem words_cons : (⟨lead, (word, gap) :: parts⟩ : Layout).words =
    word :: (⟨gap, parts⟩ : Layout).words := rfl

theorem IsSpaced.tail (h : (⟨lead, (word, gap) :: parts⟩ : Layout).IsSpaced) :
    (⟨gap, parts⟩ : Layout).IsSpaced := by
  obtain ⟨-, gaps, apart⟩ := h
  rw [List.forall_mem_cons] at gaps
  refine ⟨gaps.1, gaps.2, fun part hpart => apart part ?_⟩
  rw [List.dropLast_cons_of_ne_nil (List.ne_nil_of_mem (List.mem_of_mem_dropLast hpart))]
  exact List.mem_cons_of_mem _ hpart

/-- Two words do not touch. -/
theorem IsSpaced.parts_eq_nil (h : (⟨lead, (word, []) :: parts⟩ : Layout).IsSpaced) :
    parts = [] := by
  by_contra hparts
  have hmem : (word, []) ∈ ((word, []) :: parts).dropLast := by
    simp [List.dropLast_cons_of_ne_nil hparts]
  exact h.apart _ hmem rfl

theorem IsSpaced.exists_blank (h : (⟨lead, (word, gap) :: parts⟩ : Layout).IsSpaced)
    (more : parts ≠ []) :
    ∃ c ∈ (⟨lead, (word, gap) :: parts⟩ : Layout).text, isBlank c = true := by
  cases gap with
  | nil => exact absurd h.parts_eq_nil more
  | cons c gap =>
    exact ⟨c, by simp [text, laid], h.gaps _ List.mem_cons_self _ List.mem_cons_self⟩

/-- What follows a word of a spaced layout starts with a blank, if there is anything. -/
theorem IsSpaced.isBlank_head? (h : (⟨lead, (word, gap) :: parts⟩ : Layout).IsSpaced) {c : Char}
    (head : (⟨gap, parts⟩ : Layout).text.head? = some c) : isBlank c = true := by
  cases gap with
  | nil =>
    obtain rfl := h.parts_eq_nil
    cases head
  | cons d gap =>
    obtain rfl : d = c := by simpa [text] using head
    exact h.gaps _ List.mem_cons_self _ List.mem_cons_self

/-- In a spaced layout, double quotes stand in words only. -/
theorem IsSpaced.quote_mem_text_iff {layout : Layout} (h : layout.IsSpaced) :
    '"' ∈ layout.text ↔ ∃ word ∈ layout.words, '"' ∈ word := by
  have hblank : isBlank '"' ≠ true := by decide
  constructor
  · intro hmem
    obtain hlead | hlaid := List.mem_append.mp hmem
    · exact absurd (h.lead _ hlead) hblank
    · obtain ⟨part, hpart, hquote⟩ := List.mem_flatMap.mp hlaid
      obtain hword | hgap := List.mem_append.mp hquote
      · exact ⟨part.1, List.mem_map_of_mem hpart, hword⟩
      · exact absurd (h.gaps _ hpart _ hgap) hblank
  · rintro ⟨word, hword, hquote⟩
    obtain ⟨part, hpart, rfl⟩ := List.mem_map.mp hword
    have hlaid : '"' ∈ laid layout.parts :=
      List.mem_flatMap.mpr ⟨part, hpart, List.mem_append_left _ hquote⟩
    exact List.mem_append_right _ hlaid

theorem isReadable_cons_iff (h : (⟨lead, (word, gap) :: parts⟩ : Layout).IsSpaced) :
    (⟨lead, (word, gap) :: parts⟩ : Layout).IsReadable ↔
      (IsWord word ∨ IsOpen word ∧ '"' ∉ (⟨gap, parts⟩ : Layout).text) ∧
        (⟨gap, parts⟩ : Layout).IsReadable := by
  have hquote : '"' ∉ (⟨gap, parts⟩ : Layout).text ↔
      ∀ later ∈ (⟨gap, parts⟩ : Layout).words, '"' ∉ later := by
    rw [h.tail.quote_mem_text_iff]
    push Not
    rfl
  rw [hquote]
  constructor
  · rintro ⟨hwords, hquotes⟩
    rw [words_cons, List.forall_mem_cons] at hwords
    rw [words_cons, List.pairwise_cons] at hquotes
    refine ⟨hwords.1.imp_right fun hopen => ⟨hopen, ?_⟩, hwords.2, hquotes.2⟩
    exact fun later hlater => hquotes.1 later hlater hopen
  · rintro ⟨hword, hwords, hquotes⟩
    refine ⟨?_, ?_⟩
    · rw [words_cons, List.forall_mem_cons]
      exact ⟨hword.imp_right And.left, hwords⟩
    · rw [words_cons, List.pairwise_cons]
      refine ⟨fun later hlater hopen => ?_, hquotes⟩
      obtain hword | ⟨-, free⟩ := hword
      · exact absurd hopen.isSuffix hword.not_isSuffix
      · exact free later hlater

end Layout

/-! ### Joining and splitting -/

theorem splitFrom_blanks {gap rest : List Char} (blank : ∀ c ∈ gap, isBlank c = true) :
    splitFrom [] (gap ++ rest) = splitFrom [] rest := by
  induction gap with
  | nil => rfl
  | cons c gap ih =>
    rw [List.forall_mem_cons] at blank
    rw [List.cons_append, splitFrom_blank blank.1, ih blank.2]
    rfl

/-- **The words of a spaced layout are split off its text** if and only if each is a word, or has a
span that is not closed and no double quote in the words behind. -/
theorem splitFrom_text_iff {layout : Layout} (spaced : layout.IsSpaced) :
    splitFrom [] layout.text = layout.words ↔ layout.IsReadable := by
  obtain ⟨lead, parts⟩ := layout
  induction parts generalizing lead with
  | nil =>
    have hsplit : splitFrom [] lead = [] := by
      rw [← List.append_nil lead, splitFrom_blanks spaced.lead, splitFrom]
      rfl
    have hreadable : (⟨lead, []⟩ : Layout).IsReadable :=
      ⟨fun _ hmem => absurd hmem List.not_mem_nil, .nil⟩
    rw [Layout.text_nil, Layout.words_nil]
    exact iff_of_true hsplit hreadable
  | cons part parts ih =>
    obtain ⟨word, gap⟩ := part
    have apart : ∀ c, (⟨gap, parts⟩ : Layout).text.head? = some c → isBlank c = true :=
      fun _ => spaced.isBlank_head?
    rw [Layout.text_cons, Layout.words_cons, splitFrom_blanks spaced.lead,
      splitFrom_append_iff apart, ih gap spaced.tail, Layout.isReadable_cons_iff spaced]

/-- The words of a command are those of a layout of it. -/
private theorem split_ofList_iff {text : List Char} {words : List (List Char)} :
    split (String.ofList text) = words.map String.ofList ↔ splitFrom [] text = words := by
  rw [split, String.toList_ofList]
  exact (List.map_injective_iff.mpr fun _ _ => String.ofList_inj.mp).eq_iff

/-- **Splitting undoes joining.** Where words are joined by gaps that are blank and not empty, with
blanks or nothing before the first and behind the last, the command is split into these words. -/
theorem split_text {layout : Layout} (spaced : layout.IsSpaced)
    (words : ∀ word ∈ layout.words, IsWord word) :
    split (String.ofList layout.text) = layout.words.map String.ofList := by
  have closed : ∀ word ∈ layout.words, ¬IsOpen word :=
    fun word hword hopen => (words word hword).not_isSuffix hopen.isSuffix
  have quotes : layout.words.Pairwise fun word later => IsOpen word → '"' ∉ later :=
    List.pairwise_iff_forall_sublist.mpr fun hsublist hopen =>
      absurd hopen (closed _ (hsublist.subset List.mem_cons_self))
  rw [split_ofList_iff, splitFrom_text_iff spaced]
  exact ⟨fun word hword => .inl (words word hword), quotes⟩

/-- Blanks of all kinds, a tab, a line break and an escaped double quote within a span. -/
theorem split_text_spans :
    let layout : Layout := ⟨[' '], [("cc".toList, "\t\u2003".toList),
      ("-DX=\"a \\\" \n b\"".toList, "\n".toList), ("\" \"".toList, [' ']), ("a.c".toList, [])]⟩
    layout.IsSpaced ∧ (∀ word ∈ layout.words, IsWord word) ∧
      split " cc\t\u2003-DX=\"a \\\" \n b\"\n\" \" a.c" =
        ["cc", "-DX=\"a \\\" \n b\"", "\" \"", "a.c"] := by
  intro layout
  have spaced : layout.IsSpaced := by decide
  have words : ∀ word ∈ layout.words, IsWord word := by decide +kernel
  have text : String.ofList layout.text = " cc\t\u2003-DX=\"a \\\" \n b\"\n\" \" a.c" := by
    decide +kernel
  have listed : layout.words.map String.ofList =
      ["cc", "-DX=\"a \\\" \n b\"", "\" \"", "a.c"] := by decide +kernel
  have hsplit := split_text spaced words
  rw [text, listed] at hsplit
  exact ⟨spaced, words, hsplit⟩

/-! ### Reading -/

namespace Layout

/-- The layout with a word in front. -/
def withWord (word : List Char) (layout : Layout) : Layout :=
  ⟨[], (word, layout.lead) :: layout.parts⟩

/-- The layout with one more character that belongs to no word. -/
def withGap (c : Char) (layout : Layout) : Layout := { layout with lead := c :: layout.lead }

/-- The layout with a run that was read, in reverse, in front; an empty run is no word. -/
def emitted (run : List Char) (layout : Layout) : Layout :=
  if run.isEmpty then layout else layout.withWord run.reverse

variable {layout : Layout} {word run : List Char} {c : Char}

@[simp]
theorem words_withWord : (layout.withWord word).words = word :: layout.words := rfl

@[simp]
theorem text_withWord : (layout.withWord word).text = word ++ layout.text := by
  rw [withWord, text_cons, List.nil_append]

@[simp]
theorem words_withGap : (layout.withGap c).words = layout.words := rfl

@[simp]
theorem text_withGap : (layout.withGap c).text = c :: layout.text := rfl

@[simp]
theorem words_emitted : (layout.emitted run).words = emit run layout.words := by
  cases run <;> simp [emitted, emit]

@[simp]
theorem text_emitted : (layout.emitted run).text = run.reverse ++ layout.text := by
  cases run <;> simp [emitted]

end Layout

/-- The layout that splitting makes of a text, the first word of which starts with the given run, in
reverse. -/
@[grind =]
def layoutFrom (run : List Char) : List Char → Layout
  | [] => Layout.emitted run ⟨[], []⟩
  | c :: rest =>
    if c = '"' then
      match span? rest with
      | some size =>
        (layoutFrom [] (rest.drop size)).withWord (run.reverse ++ '"' :: rest.take size)
      | none => ((layoutFrom [] rest).withGap c).emitted run
    else if isBlank c then ((layoutFrom [] rest).withGap c).emitted run
    else layoutFrom (c :: run) rest
  termination_by text => text.length
  decreasing_by all_goals (simp; try omega)

/-- The layout that splitting makes of a text. -/
def layout (text : List Char) : Layout := layoutFrom [] text

theorem words_layoutFrom (run text : List Char) :
    (layoutFrom run text).words = splitFrom run text := by
  fun_induction layoutFrom run text with
  | case1 run => rw [Layout.words_emitted, splitFrom, Layout.words_nil]
  | case2 run rest size opened ih =>
    rw [Layout.words_withWord, ih, splitFrom, if_pos rfl, opened]
  | case3 run rest unopened ih =>
    rw [Layout.words_emitted, Layout.words_withGap, ih, splitFrom, if_pos rfl, unopened]
  | case4 run c rest quote blank ih =>
    rw [Layout.words_emitted, Layout.words_withGap, ih, splitFrom_blank blank]
  | case5 run c rest quote blank ih =>
    rw [ih, splitFrom_plain ⟨quote, by simpa using blank⟩]

theorem text_layoutFrom (run text : List Char) :
    (layoutFrom run text).text = run.reverse ++ text := by
  fun_induction layoutFrom run text with
  | case1 run => rw [Layout.text_emitted, Layout.text_nil]
  | case2 run rest size opened ih =>
    rw [Layout.text_withWord, ih]
    simp
  | case3 run rest unopened ih => rw [Layout.text_emitted, Layout.text_withGap, ih]; rfl
  | case4 run c rest quote blank ih => rw [Layout.text_emitted, Layout.text_withGap, ih]; rfl
  | case5 run c rest quote blank ih =>
    rw [ih]
    simp

@[simp]
theorem words_layout (text : List Char) : (layout text).words = splitFrom [] text :=
  words_layoutFrom [] text

@[simp]
theorem text_layout (text : List Char) : (layout text).text = text :=
  text_layoutFrom [] text

/-- How splitting reads a layout, from the end of its text. -/
inductive IsRead : Layout → Prop
  | nil : IsRead ⟨[], []⟩
  /-- A blank is left out, and so is a double quote that opens no span. -/
  | gap {c : Char} {layout : Layout}
      (idle : isBlank c = true ∨ c = '"' ∧ span? layout.text = none) (read : IsRead layout) :
      IsRead (layout.withGap c)
  | word {word : List Char} {layout : Layout}
      (split : IsWord word ∨ IsOpen word ∧ '"' ∉ layout.text)
      (touch : layout.lead = [] → layout.parts = [] ∨ word.getLast? = some '"')
      (read : IsRead layout) : IsRead (layout.withWord word)

private theorem IsRead.emitted {run : List Char} {layout : Layout} (read : IsRead layout)
    (plain : ∀ c ∈ run, IsPlain c) (ended : layout.lead = [] → layout.parts = []) :
    IsRead (layout.emitted run) := by
  cases run with
  | nil => exact read
  | cons c run =>
    have hword : IsWord (c :: run).reverse := .run (by simp) fun d hd =>
      plain d (List.mem_reverse.mp hd)
    exact .word (.inl hword) (fun hlead => .inl (ended hlead)) read

private theorem isRead_layoutFrom (run text : List Char) (plain : ∀ c ∈ run, IsPlain c) :
    IsRead (layoutFrom run text) := by
  fun_induction layoutFrom run text with
  | case1 run => exact IsRead.nil.emitted plain fun _ => rfl
  | case2 run rest size opened ih =>
    have hplain : ∀ c ∈ run.reverse, IsPlain c := fun c hc => plain c (List.mem_reverse.mp hc)
    obtain ⟨content, htake, closed⟩ | ⟨unclosed, free⟩ := take_span? opened
    · rw [htake]
      refine .word (.inl (.span hplain closed)) (fun _ => .inr ?_) (ih nofun)
      rw [← List.cons_append, ← List.append_assoc, List.getLast?_concat]
    · have hopen : IsOpen (run.reverse ++ '"' :: rest.take size) := .span hplain unclosed
      refine .word (.inr ⟨hopen, ?_⟩) (fun _ => .inr hopen.getLast?) (ih nofun)
      rwa [text_layoutFrom]
  | case3 run rest unopened ih =>
    refine IsRead.emitted (.gap (.inr ⟨rfl, ?_⟩) (ih nofun)) plain nofun
    rwa [text_layoutFrom]
  | case4 run c rest quote blank ih =>
    exact IsRead.emitted (.gap (.inl blank) (ih nofun)) plain nofun
  | case5 run c rest quote blank ih =>
    exact ih (List.forall_mem_cons.mpr ⟨⟨quote, by simpa using blank⟩, plain⟩)

theorem isRead_layout (text : List Char) : IsRead (layout text) :=
  isRead_layoutFrom [] text nofun

/-- Each word of a layout that was read is one in front of what comes behind it. -/
theorem IsRead.isWord_or_isOpen {layout : Layout} (read : IsRead layout) {word gap : List Char}
    {earlier later : List (List Char × List Char)}
    (h : layout.parts = earlier ++ (word, gap) :: later) :
    IsWord word ∨ IsOpen word ∧ '"' ∉ (⟨gap, later⟩ : Layout).text := by
  induction read generalizing earlier with
  | nil => simp at h
  | gap _ _ ih => exact ih h
  | word split _ _ ih =>
    cases earlier with
    | nil =>
      obtain ⟨hpart, rfl⟩ := List.cons.inj h
      obtain ⟨rfl, rfl⟩ := Prod.mk.inj hpart
      exact split
    | cons part earlier => exact ih (List.cons.inj h).2

theorem IsRead.isLoose {layout : Layout} (read : IsRead layout) : layout.IsLoose := by
  induction read with
  | nil => exact ⟨nofun, nofun, nofun⟩
  | gap idle _ ih =>
    exact ⟨List.forall_mem_cons.mpr ⟨idle.imp_right And.left, ih.lead⟩, ih.gaps, ih.touch⟩
  | @word word layout _ touch _ ih =>
    refine ⟨nofun, List.forall_mem_cons.mpr ⟨ih.lead, ih.gaps⟩, fun part hpart hgap => ?_⟩
    obtain ⟨lead, parts⟩ := layout
    cases parts with
    | nil => cases hpart
    | cons next parts =>
      obtain rfl | hpart := List.mem_cons.mp hpart
      · exact (touch hgap).resolve_left (by simp)
      · exact ih.touch part hpart hgap

/-! ### What is lost -/

/-- **What splitting leaves out and where it breaks.** The words of a command, in order, and what
stands between them make up the command. Between them stand only blanks and double quotes, and
words only touch where one ends in a double quote.

Nothing but blanks is left out, and no two words touch, if and only if the command is made of
words and blanks between them, where a word may have a span that is not closed if no double quote
comes after it. -/
theorem split_spaced_iff (command : String) :
    ((layout command.toList).text = command.toList ∧
      (layout command.toList).words.map String.ofList = split command ∧
      (layout command.toList).IsLoose) ∧
    ((∃ spaced : Layout, spaced.IsSpaced ∧ spaced.text = command.toList ∧
        spaced.words.map String.ofList = split command) ↔
      ∃ spaced : Layout, spaced.IsSpaced ∧ spaced.text = command.toList ∧ spaced.IsReadable) := by
  refine ⟨⟨text_layout _, ?_, (isRead_layout _).isLoose⟩, ?_⟩
  · rw [words_layout, split]
  · refine exists_congr fun spaced => and_congr_right fun hspaced => and_congr_right fun htext => ?_
    rw [← splitFrom_text_iff hspaced, ← split_ofList_iff, htext, String.ofList_toList, eq_comm]

/-- **A double quote is lost** where it opens an empty span, and what comes after a span is a word
of its own although no blank stands before it. -/
theorem split_loses_quote :
    (split "c -DX=\"\" a" = ["c", "-DX=", "a"] ∧
      ¬∃ spaced : Layout, spaced.IsSpaced ∧ spaced.text = "c -DX=\"\" a".toList ∧
        spaced.words.map String.ofList = split "c -DX=\"\" a") ∧
    (split "a\"b\"c" = ["a\"b\"", "c"] ∧
      ¬∃ spaced : Layout, spaced.IsSpaced ∧ spaced.text = "a\"b\"c".toList ∧
        spaced.words.map String.ofList = split "a\"b\"c") := by
  have lost : split "c -DX=\"\" a" = ["c", "-DX=", "a"] := by decide +kernel
  have torn : split "a\"b\"c" = ["a\"b\"", "c"] := by decide +kernel
  refine ⟨⟨lost, ?_⟩, torn, ?_⟩
  · rintro ⟨spaced, hspaced, htext, hwords⟩
    have hquote : '"' ∈ spaced.text := htext ▸ by decide
    obtain ⟨word, hword, hquote⟩ := hspaced.quote_mem_text_iff.mp hquote
    have hmem : String.ofList word ∈ split "c -DX=\"\" a" := hwords ▸ List.mem_map_of_mem hword
    have free : ∀ token ∈ split "c -DX=\"\" a", '"' ∉ token.toList := by rw [lost]; decide
    refine free _ hmem ?_
    rwa [String.toList_ofList]
  · rintro ⟨⟨lead, parts⟩, hspaced, htext, hwords⟩
    have hlength := congrArg List.length hwords
    rw [torn] at hlength
    obtain _ | ⟨⟨word, gap⟩, _ | ⟨next, parts⟩⟩ := parts
    · cases hlength
    · cases hlength
    · obtain ⟨c, hc, blank⟩ := hspaced.exists_blank (by simp)
      have dense : "a\"b\"c".toList.any isBlank = false := by decide
      exact List.any_eq_false.mp dense c (htext ▸ hc) blank

end Words

end ArtifactLens
