import ArtifactLens.Proofs.Command.Layout
import ArtifactLens.Proofs.Command.Recipe

/-!
# The spans of a command

Read from the left, a command opens and closes spans in turn at each double quote that has no
backslash before it (`Words.strokes`); where no such double quote follows, none is opened
(`Words.IsInside`). Splitting does not read it so: to it a double quote in front of a span opens the
span even after a backslash, and one that opens an empty span is passed over.

* **Merging** (`Words.Layout.merges_iff`): a word holds a blank that is outside all spans if and
  only if it holds a blank and its own span is not one of the command (`Words.IsAligned`).
* **Standing words** (`Words.IsRead.keepsStanding`): where no word does so, whatever plain word
  stands between blanks outside the spans is split off.
* **Regular commands** (`Words.IsRegular.isAligned`): no word does so if all escaped double quotes
  are inside spans and no span is empty.
-/

namespace ArtifactLens

namespace Words

/-- How many double quotes of a text have no backslash before them, where the text comes after the
given character. -/
@[grind =]
def strokesAfter (last : Option Char) : List Char → Nat
  | [] => 0
  | c :: rest => (if c = '"' ∧ last ≠ some '\\' then 1 else 0) + strokesAfter (some c) rest

/-- How many double quotes of a text have no backslash before them. -/
def strokes (text : List Char) : Nat := strokesAfter none text

/-- Between the two texts, a span is open and will be closed. -/
def IsInside (before after : List Char) : Prop :=
  strokes before % 2 = 1 ∧ 0 < strokesAfter before.getLast? after

instance (before after : List Char) : Decidable (IsInside before after) :=
  inferInstanceAs (Decidable (_ ∧ _))

/-- A blank of some word is outside all spans of the text. -/
def Layout.Merges (layout : Layout) : Prop :=
  ∃ earlier front c back gap later, layout.parts = earlier ++ (front ++ c :: back, gap) :: later ∧
    isBlank c = true ∧ ¬IsInside ((⟨layout.lead, earlier⟩ : Layout).text ++ front)
      (c :: (back ++ (⟨gap, later⟩ : Layout).text))

/-- The span of a word is one of the text, where the word comes after another text. -/
structure IsAligned (before word : List Char) : Prop where
  opens : strokes (before ++ (word.takeWhile (· ≠ '"') ++ ['"'])) % 2 = 1
  closed : ¬IsOpen word

/-- A plain word between blanks, outside all spans. -/
structure IsStanding (before word after : List Char) : Prop where
  ne_nil : word ≠ []
  plain : ∀ c ∈ word, IsPlain c
  left : ∀ c, before.getLast? = some c → isBlank c = true
  right : ∀ c, after.head? = some c → isBlank c = true
  outside : ¬IsInside before (word ++ after)

/-- Whatever stands between blanks outside the spans is a word of the layout, at its place. -/
def Layout.KeepsStanding (layout : Layout) : Prop :=
  ∀ before word after, layout.text = before ++ (word ++ after) → IsStanding before word after →
    ∃ earlier gap later, layout.parts = earlier ++ (word, gap) :: later ∧
      (⟨layout.lead, earlier⟩ : Layout).text = before

/-- Every escaped double quote is inside a span, and no span is empty. -/
structure IsRegular (text : List Char) : Prop where
  escaped : ∀ before after, text = before ++ '\\' :: '"' :: after →
    IsInside (before ++ ['\\']) ('"' :: after)
  filled : ∀ before after, text = before ++ '"' :: '"' :: after → strokes before % 2 = 1

variable {last : Option Char} {text before after word gap : List Char} {c : Char} {layout : Layout}
  {earlier later : List (List Char × List Char)}

/-! ### Strokes -/

theorem strokesAfter_append (last : Option Char) (before after : List Char) :
    strokesAfter last (before ++ after) =
      strokesAfter last before + strokesAfter (before.getLast?.or last) after := by
  induction before generalizing last with
  | nil => simp [strokesAfter]
  | cons c before ih =>
    have hlast : before.getLast?.or (some c) = ((c :: before).getLast?).or last := by
      cases before <;> simp [List.getLast?_cons]
    rw [List.cons_append, strokesAfter, strokesAfter, ih, hlast, Nat.add_assoc]

theorem strokes_append (before after : List Char) :
    strokes (before ++ after) = strokes before + strokesAfter before.getLast? after := by
  rw [strokes, strokesAfter_append, Option.or_none]
  rfl

theorem strokesAfter_cons (quote : c ≠ '"') :
    strokesAfter last (c :: text) = strokesAfter (some c) text := by
  simp [strokesAfter, quote]

/-- Escaped double quotes do not count. -/
theorem strokesAfter_of_escaped (escaped : Escaped text) : strokesAfter last text = 0 := by
  induction escaped using Escaped.induction generalizing last with
  | nil => rfl
  | pair rest _ ih => simp [strokesAfter, ih]
  | single c rest _ quote _ ih => rw [strokesAfter_cons quote, ih]

theorem strokesAfter_of_not_mem (free : '"' ∉ text) : strokesAfter last text = 0 :=
  strokesAfter_of_escaped (.of_not_mem free)

theorem quote_not_mem_of_plain (plain : ∀ c ∈ text, IsPlain c) : '"' ∉ text :=
  fun h => (plain _ h).1 rfl

theorem ne_quote_of_isBlank (blank : isBlank c = true) : c ≠ '"' := by
  rintro rfl
  exact absurd blank (by decide)

/-- A word that holds a blank has a span. -/
theorem quote_mem_of_isBlank (split : IsWord word ∨ IsOpen word) (hc : c ∈ word)
    (blank : isBlank c = true) : '"' ∈ word := by
  obtain hword | hopen := split
  · cases hword with
    | run _ plain => exact absurd (blank.symm.trans (plain c hc).2) (by decide)
    | span => simp
  · exact List.mem_of_getLast? hopen.getLast?

/-- A double quote counts unless a backslash is before it. -/
theorem strokes_concat_quote (last : before.getLast? ≠ some '\\') :
    strokes (before ++ ['"']) = strokes before + 1 := by
  simp [strokes_append, strokesAfter, last]

theorem strokesAfter_quote_pos (hlast : last ≠ some '\\') :
    0 < strokesAfter last ('"' :: text) := by
  simp only [strokesAfter, hlast, ne_eq, not_false_eq_true, and_self, if_true]
  omega

/-! ### Merging -/

/-- A character behind one that is no double quote is escaped by what stands between. -/
theorem Escaped.of_append_right {front back : List Char} (h : Escaped (front ++ c :: back))
    (quote : c ≠ '"') : Escaped (c :: back) := by
  intro before after htext
  have hlast := h (front ++ before) after (by rw [htext, List.append_assoc])
  cases before with
  | nil => exact absurd (List.cons.inj htext).1 quote
  | cons d before => rwa [List.getLast?_append_of_ne_nil _ (by simp)] at hlast

/-- A blank of a run and a span is in the span. -/
private theorem exists_of_blank {run body front back : List Char} (plain : ∀ c ∈ run, IsPlain c)
    (blank : isBlank c = true) (h : run ++ '"' :: body = front ++ c :: back) :
    ∃ inner, front = run ++ '"' :: inner ∧ body = inner ++ c :: back := by
  obtain ⟨more, hrun, -⟩ | ⟨inner, hfront, hbody⟩ := append_eq_append_cons h
  · have hplain : IsPlain c := plain c (hrun ▸ by simp)
    exact absurd (blank.symm.trans hplain.2) (by decide)
  · cases inner with
    | nil => exact absurd (List.cons.inj hbody).1.symm (ne_quote_of_isBlank blank)
    | cons d inner =>
      obtain rfl := (List.cons.inj hbody).1
      exact ⟨inner, hfront, (List.cons.inj hbody).2⟩

/-- Within a span, no more double quotes count than the one that opens it. -/
private theorem strokes_span {run inner : List Char} (escaped : Escaped inner) :
    strokes (before ++ (run ++ '"' :: inner)) = strokes (before ++ (run ++ ['"'])) := by
  have happend : before ++ (run ++ '"' :: inner) = (before ++ (run ++ ['"'])) ++ inner := by simp
  rw [happend, strokes_append, strokesAfter_of_escaped escaped, Nat.add_zero]

/-- A blank of a word is inside a span if and only if the span of the word is one of the text. -/
theorem isInside_iff_isAligned {front back : List Char}
    (split : IsWord (front ++ c :: back) ∨ IsOpen (front ++ c :: back) ∧ '"' ∉ after)
    (blank : isBlank c = true) :
    IsInside (before ++ front) (c :: (back ++ after)) ↔ IsAligned before (front ++ c :: back) := by
  generalize hword : front ++ c :: back = word at split ⊢
  have quote : c ≠ '"' := ne_quote_of_isBlank blank
  obtain hclosed | ⟨hopen, free⟩ := split
  · have hnot : ¬IsOpen word := fun hopen => hclosed.not_isSuffix hopen.isSuffix
    cases hclosed with
    | run _ plain =>
      have hplain : IsPlain c := plain c (hword ▸ by simp)
      exact absurd (blank.symm.trans hplain.2) (by decide)
    | @span run content plain closed =>
      obtain ⟨inner, rfl, hcontent⟩ := exists_of_blank plain blank hword.symm
      have hend : (c :: back).getLast? = some '"' := by
        rw [← List.getLast?_append_of_ne_nil inner (by simp), ← hcontent, List.getLast?_concat]
      obtain ⟨_ | ⟨d, more⟩, hback⟩ := List.getLast?_eq_some_iff.mp hend
      · exact absurd (List.cons.inj hback).1 quote
      obtain rfl := (List.cons.inj hback).1
      have hmore : content = inner ++ c :: more := by
        rw [hback, ← List.append_assoc] at hcontent
        exact List.append_cancel_right hcontent
      have escaped : Escaped inner := (hmore ▸ closed.escaped).of_append
      have hlast : (c :: more).getLast? ≠ some '\\' := by
        have := closed.getLast?
        rwa [hmore, List.getLast?_append_of_ne_nil _ (by simp)] at this
      have hcloses : 0 < strokesAfter (before ++ (run ++ '"' :: inner)).getLast?
          (c :: (back ++ after)) := by
        rw [← List.cons_append, hback, List.append_assoc, strokesAfter_append]
        refine Nat.lt_add_left _ (strokesAfter_quote_pos ?_)
        rwa [List.getLast?_cons, Option.some_or, ← List.getLast?_cons]
      have hopens : (run ++ '"' :: (content ++ ['"'])).takeWhile (· ≠ '"') = run :=
        takeWhile_run plain _
      rw [IsInside, and_iff_left hcloses, strokes_span escaped]
      exact ⟨fun opens => ⟨hopens.symm ▸ opens, hnot⟩, fun aligned => hopens ▸ aligned.opens⟩
  · have hopen' := hopen
    obtain @⟨run, content, plain, escaped, -⟩ := hopen
    obtain ⟨inner, rfl, hcontent⟩ := exists_of_blank plain blank hword.symm
    have hback : Escaped (c :: back) := by
      rw [hcontent] at escaped
      exact escaped.of_append_right quote
    have hnone : strokesAfter (before ++ (run ++ '"' :: inner)).getLast?
        (c :: (back ++ after)) = 0 := by
      rw [← List.cons_append, strokesAfter_append, strokesAfter_of_escaped hback,
        strokesAfter_of_not_mem free]
    refine iff_of_false ?_ fun h => h.closed hopen'
    rw [IsInside, hnone]
    exact fun h => absurd h.2 (Nat.lt_irrefl 0)

/-- **A word merges** what is outside all spans if and only if it holds a blank and its own span is
none of the text. -/
theorem Layout.merges_iff (read : IsRead layout) :
    layout.Merges ↔ ∃ earlier word gap later, layout.parts = earlier ++ (word, gap) :: later ∧
      (∃ c ∈ word, isBlank c = true) ∧ ¬IsAligned (⟨layout.lead, earlier⟩ : Layout).text word := by
  constructor
  · rintro ⟨earlier, front, c, back, gap, later, hparts, blank, outside⟩
    rw [isInside_iff_isAligned (read.isWord_or_isOpen hparts) blank] at outside
    exact ⟨earlier, front ++ c :: back, gap, later, hparts, ⟨c, by simp, blank⟩, outside⟩
  · rintro ⟨earlier, word, gap, later, hparts, ⟨c, hc, blank⟩, hnot⟩
    obtain ⟨front, back, rfl⟩ := List.append_of_mem hc
    rw [← isInside_iff_isAligned (read.isWord_or_isOpen hparts) blank] at hnot
    exact ⟨earlier, front, c, back, gap, later, hparts, blank, hnot⟩

/-! ### Standing words -/

/-- A plain character of the text is in one of the words. -/
private theorem exists_of_plain {lead : List Char} {parts : List (List Char × List Char)}
    (lead_free : ∀ d ∈ lead, ¬IsPlain d) (gaps_free : ∀ part ∈ parts, ∀ d ∈ part.2, ¬IsPlain d)
    (plain : IsPlain c) (h : (⟨lead, parts⟩ : Layout).text = before ++ c :: after) :
    ∃ earlier front back gap later, parts = earlier ++ (front ++ c :: back, gap) :: later ∧
      before = (⟨lead, earlier⟩ : Layout).text ++ front ∧
      after = back ++ (⟨gap, later⟩ : Layout).text := by
  induction parts generalizing lead before with
  | nil =>
    rw [Layout.text_nil] at h
    exact absurd plain (lead_free c (h ▸ by simp))
  | cons part parts ih =>
    obtain ⟨word, gap⟩ := part
    rw [List.forall_mem_cons] at gaps_free
    rw [Layout.text_cons] at h
    obtain ⟨more, hlead, -⟩ | ⟨more, hbefore, hrest⟩ := append_eq_append_cons h
    · exact absurd plain (lead_free c (hlead ▸ by simp))
    obtain ⟨back, hword, hafter⟩ | ⟨more, hmore, hrest⟩ := append_eq_append_cons hrest
    · -- in the first word
      refine ⟨[], more, back, gap, parts, by rw [hword]; rfl, ?_, hafter⟩
      rw [hbefore, Layout.text_nil]
    · obtain ⟨earlier, front, back, last, later, hparts, hmore', hafter⟩ :=
        ih gaps_free.1 gaps_free.2 hrest
      refine ⟨(word, gap) :: earlier, front, back, last, later, by rw [hparts]; rfl, ?_, hafter⟩
      rw [hbefore, hmore, hmore', Layout.text_cons]
      simp

/-- Passing over what is no double quote neither enters nor leaves a span. -/
theorem isInside_append (free : '"' ∉ text) :
    IsInside (before ++ text) after ↔ IsInside before (text ++ after) := by
  rw [IsInside, IsInside, strokes_append, strokesAfter_append, strokesAfter_of_not_mem free,
    List.getLast?_append, Nat.zero_add, Nat.add_zero]

private theorem not_isPlain_of_skipped (h : isBlank c = true ∨ c = '"') : ¬IsPlain c := by
  rintro ⟨quote, blank⟩
  exact h.elim (fun h => Bool.false_ne_true (blank.symm.trans h)) quote

/-- What comes right behind a plain word of a layout is not plain. -/
private theorem not_isPlain_of_behind {rest : List Char} (loose : layout.IsLoose)
    (hparts : layout.parts = earlier ++ (word, gap) :: later) (plain : ∀ d ∈ word, IsPlain d)
    (behind : (⟨gap, later⟩ : Layout).text = c :: rest) : ¬IsPlain c := by
  obtain ⟨-, gaps, touch⟩ := loose
  rw [hparts] at gaps touch
  cases gap with
  | cons d gap =>
    obtain rfl := (List.cons.inj behind).1
    exact not_isPlain_of_skipped (gaps (word, d :: gap) (by simp) d List.mem_cons_self)
  | nil =>
    -- two words touch, but the first does not end in a double quote
    have hlater : later ≠ [] := by
      rintro rfl
      cases behind
    have hmem : (word, []) ∈ (earlier ++ (word, []) :: later).dropLast := by
      rw [List.dropLast_append_of_ne_nil (by simp), List.dropLast_cons_of_ne_nil hlater]
      simp
    have hquote := List.mem_of_getLast? (touch _ hmem rfl)
    exact absurd rfl (plain _ hquote).1

/-- Where no word merges, a word has no blank outside all spans. -/
private theorem isInside_of_blank (front back : List Char) (apart : ¬layout.Merges)
    (hparts : layout.parts = earlier ++ (front ++ c :: back, gap) :: later)
    (blank : isBlank c = true) :
    IsInside ((⟨layout.lead, earlier⟩ : Layout).text ++ front)
      (c :: (back ++ (⟨gap, later⟩ : Layout).text)) := by
  by_contra outside
  exact apart ⟨earlier, front, c, back, gap, later, hparts, blank, outside⟩

/-- **A standing word is a word of the layout**, at its place, where no word merges. -/
theorem IsRead.keepsStanding (read : IsRead layout) (apart : ¬layout.Merges) :
    layout.KeepsStanding := by
  intro before word after htext ⟨ne_nil, plain, left, right, outside⟩
  have loose := read.isLoose
  have free : '"' ∉ word := quote_not_mem_of_plain plain
  obtain ⟨d, word, rfl⟩ := List.exists_cons_of_ne_nil ne_nil
  have hd : IsPlain d := plain d List.mem_cons_self
  rw [List.cons_append] at htext outside
  obtain ⟨earlier, front, back, gap, later, hparts, hbefore, hafter⟩ := exists_of_plain
    (fun e he => not_isPlain_of_skipped (loose.lead e he))
    (fun part hpart e he => not_isPlain_of_skipped (loose.gaps part hpart e he)) hd htext
  have hfront : front = [] := by
    obtain rfl | ⟨front, e, rfl⟩ := List.eq_nil_or_concat' front
    · rfl
    · have blank : isBlank e = true := left e (by simp [hbefore])
      have quote : '"' ∉ [e] := by simpa using (ne_quote_of_isBlank blank).symm
      have inside := isInside_of_blank front (d :: back) apart
        (by simpa using hparts) blank
      rw [List.cons_append, ← hafter, ← List.singleton_append, ← isInside_append quote,
        List.append_assoc, ← hbefore] at inside
      exact absurd inside outside
  subst hfront
  rw [List.append_nil] at hbefore
  rw [List.nil_append] at hparts
  have hback : back = word := by
    obtain ⟨more, rfl, hrest⟩ | ⟨more, rfl, hrest⟩ := List.append_eq_append_iff.mp hafter
    · obtain _ | ⟨e, more⟩ := more
      · rw [List.append_nil]
      · have blank : isBlank e = true := right e (by rw [hrest]; rfl)
        have inside := isInside_of_blank (d :: word) more apart hparts blank
        rw [isInside_append free, ← List.cons_append, ← hrest, ← hbefore] at inside
        exact absurd inside outside
    · obtain _ | ⟨e, more⟩ := more
      · rw [List.append_nil]
      · have hplain : ∀ c ∈ d :: back, IsPlain c := fun c hc => plain c (by simp at hc ⊢; tauto)
        exact absurd (plain e (by simp)) (not_isPlain_of_behind loose hparts hplain hrest)
  subst hback
  exact ⟨earlier, gap, later, hparts, hbefore.symm⟩

/-! ### Regular commands -/

/-- In a regular text, no word has a span that is not closed. -/
private theorem IsRegular.not_isOpen (regular : IsRegular (before ++ (word ++ after)))
    (free : '"' ∉ after) : ¬IsOpen word := by
  intro hopen
  obtain ⟨front, rfl⟩ := hopen.isSuffix
  have inside := regular.escaped (before ++ front) after (by simp)
  have hnone : strokesAfter (before ++ front ++ ['\\']).getLast? ('"' :: after) = 0 := by
    rw [List.getLast?_concat, strokesAfter, if_neg (by simp), strokesAfter_of_not_mem free]
  rw [IsInside, hnone] at inside
  exact Nat.lt_irrefl 0 inside.2

/-- In a regular text, a span of the text starts wherever a word has one. -/
private theorem IsRegular.getLast?_ne {front back : List Char}
    (regular : IsRegular (front ++ '"' :: back)) (balanced : strokes front % 2 = 0) :
    front.getLast? ≠ some '\\' := by
  intro hlast
  obtain ⟨earlier, rfl⟩ := List.getLast?_eq_some_iff.mp hlast
  have inside := regular.escaped earlier back (by simp)
  have opens := inside.1
  omega

/-- In a regular text, the spans of words and those of the text are the same. -/
private theorem IsRegular.word_step (regular : IsRegular (before ++ (word ++ after)))
    (balanced : strokes before % 2 = 0 ∨ '"' ∉ word ++ after)
    (split : IsWord word ∨ IsOpen word ∧ '"' ∉ after) :
    ('"' ∈ word → IsAligned before word) ∧ (strokes (before ++ word) % 2 = 0 ∨ '"' ∉ after) := by
  obtain hword | ⟨hopen, free⟩ := split
  · have hclosed : ¬IsOpen word := fun hopen => hword.not_isSuffix hopen.isSuffix
    cases hword with
    | run _ plain =>
      have free : '"' ∉ word := quote_not_mem_of_plain plain
      rw [strokes_append, strokesAfter_of_not_mem free]
      refine ⟨fun h => absurd h free, balanced.imp_right fun h hmem => ?_⟩
      exact h (List.mem_append_right _ hmem)
    | @span run content plain closed =>
      have heven : strokes before % 2 = 0 := balanced.resolve_right (by simp)
      have hrun : strokes (before ++ run) = strokes before := by
        rw [strokes_append, strokesAfter_of_not_mem (quote_not_mem_of_plain plain), Nat.add_zero]
      have hregular : IsRegular ((before ++ run) ++ '"' :: (content ++ '"' :: after)) := by
        simpa using regular
      have hlast : (before ++ run).getLast? ≠ some '\\' := hregular.getLast?_ne (hrun ▸ heven)
      have hopens : strokes (before ++ (run ++ ['"'])) = strokes before + 1 := by
        rw [← List.append_assoc, strokes_concat_quote hlast, hrun]
      have hinner : strokes (before ++ (run ++ '"' :: content)) = strokes before + 1 := by
        rw [strokes_span closed.escaped, hopens]
      have hcontent : (before ++ (run ++ '"' :: content)).getLast? ≠ some '\\' := by
        have hsplit : before ++ (run ++ '"' :: content) =
            (before ++ (run ++ ['"'])) ++ content := by simp
        rw [hsplit, List.getLast?_append_of_ne_nil _ closed.ne_nil]
        exact closed.getLast?
      have hword : strokes (before ++ (run ++ '"' :: (content ++ ['"']))) = strokes before + 2 := by
        rw [← List.cons_append, ← List.append_assoc, ← List.append_assoc, List.append_assoc before,
          strokes_concat_quote hcontent, hinner]
      refine ⟨fun _ => ⟨?_, hclosed⟩, .inl (by omega)⟩
      rw [takeWhile_run plain]
      omega
  · exact absurd hopen (regular.not_isOpen free)

private theorem IsRegular.gap_step (regular : IsRegular (before ++ c :: after))
    (balanced : strokes before % 2 = 0 ∨ '"' ∉ c :: after)
    (idle : isBlank c = true ∨ c = '"' ∧ span? after = none) :
    strokes (before ++ [c]) % 2 = 0 ∨ '"' ∉ after := by
  obtain blank | ⟨rfl, unopened⟩ := idle
  · have free : '"' ∉ [c] := by simpa using (ne_quote_of_isBlank blank).symm
    rw [strokes_append, strokesAfter_of_not_mem free]
    exact balanced.imp_right fun h hmem => h (List.mem_cons_of_mem _ hmem)
  · have heven : strokes before % 2 = 0 := balanced.resolve_right (by simp)
    have hopening := opening after
    rw [unopened] at hopening
    cases hopening with
    | empty rest =>
      have hodd := regular.filled before rest rfl
      omega
    | alone _ free => exact .inr free

/-- **A word of a regular text is aligned** if it has a span. -/
theorem IsRegular.isAligned (read : IsRead layout) (regular : IsRegular (before ++ layout.text))
    (balanced : strokes before % 2 = 0 ∨ '"' ∉ layout.text)
    (hparts : layout.parts = earlier ++ (word, gap) :: later) (quote : '"' ∈ word) :
    IsAligned (before ++ (⟨layout.lead, earlier⟩ : Layout).text) word := by
  induction read generalizing before earlier with
  | nil => simp at hparts
  | @gap c layout idle read ih =>
    rw [Layout.text_withGap] at regular balanced
    have hregular : IsRegular ((before ++ [c]) ++ layout.text) := by simpa using regular
    have haligned := ih hregular (regular.gap_step balanced idle) hparts
    simpa [Layout.withGap, Layout.text] using haligned
  | @word first layout split touch read ih =>
    rw [Layout.text_withWord] at regular balanced
    obtain ⟨haligned, hbalanced⟩ := regular.word_step balanced split
    cases earlier with
    | nil =>
      obtain rfl := (Prod.mk.inj (List.cons.inj hparts).1).1
      rw [Layout.text_nil]
      simpa [Layout.withWord] using haligned quote
    | cons part earlier =>
      obtain rfl := (List.cons.inj hparts).1
      have hregular : IsRegular ((before ++ first) ++ layout.text) := by simpa using regular
      have hlater := ih hregular hbalanced (List.cons.inj hparts).2
      simpa [Layout.withWord, Layout.text_cons] using hlater

/-- No word of a regular text merges. -/
theorem IsRegular.not_merges {text : List Char} (regular : IsRegular text) :
    ¬(Words.layout text).Merges := by
  have read := isRead_layout text
  rw [Layout.merges_iff read]
  rintro ⟨earlier, word, gap, later, hparts, ⟨c, hc, blank⟩, hnot⟩
  have quote := quote_mem_of_isBlank ((read.isWord_or_isOpen hparts).imp_right And.left) hc blank
  have hregular : IsRegular ([] ++ (Words.layout text).text) := by simpa using regular
  exact hnot (hregular.isAligned read (.inl rfl) hparts quote)

end Words

namespace Entry

open Words

/-- **Arguments and spans.** An accepted command is split into the compiler and words, none of which
has a blank outside all spans, so that each plain word between blanks outside the spans is one of
them and no `-c`, `-g` or `-o` reaches the compile command, if and only if each word that holds a
blank is closed and its span is one of the command. A regular command is of this kind. -/
theorem words_apart_iff {host : Host} {entry : Entry} {command : CompileCommand} {text : String}
    (accepted : entry.command? host = some command) (one : entry.command = some text)
    (nonempty : text ≠ "") :
    let read := Words.layout text.toList
    (read.text = text.toList ∧ read.words.map String.ofList = entry.words) ∧
    (¬read.Merges ∧ read.KeepsStanding ∧ (∀ flag ∈ ["-c", "-g", "-o"], flag ∉ command.args) ↔
      ∀ earlier word gap later, read.parts = earlier ++ (word, gap) :: later →
        (∃ c ∈ word, isBlank c = true) → IsAligned (⟨read.lead, earlier⟩ : Layout).text word) ∧
    (IsRegular text.toList → ¬read.Merges) := by
  intro read
  have hread : IsRead read := isRead_layout text.toList
  have hwords : read.words.map String.ofList = entry.words := by
    rw [words_layout, words, one]
    simp only [if_neg nonempty, split]
  have hflags : ∀ flag ∈ ["-c", "-g", "-o"], flag ∉ command.args := by
    intro flag hflag
    rw [command?] at accepted
    cases hsplit : entry.words with
    | nil => simp [hsplit] at accepted
    | cons compiler args =>
      simp only [hsplit, Option.some.injEq] at accepted
      subst accepted
      exact not_mem_dropOutputControl hflag args
  refine ⟨⟨text_layout _, hwords⟩, ?_, IsRegular.not_merges⟩
  have hmerges := Layout.merges_iff hread
  constructor
  · rintro ⟨apart, -, -⟩ earlier word gap later hparts hblank
    by_contra hnot
    exact apart (hmerges.mpr ⟨earlier, word, gap, later, hparts, hblank, hnot⟩)
  · intro aligned
    have apart : ¬read.Merges := by
      rw [hmerges]
      rintro ⟨earlier, word, gap, later, hparts, hblank, hnot⟩
      exact hnot (aligned earlier word gap later hparts hblank)
    exact ⟨apart, hread.keepsStanding apart, hflags⟩

/-- A command with blanks in a span is regular, so it is split at all other blanks. -/
theorem words_apart_spaced :
    let host : Host := ⟨⟨.root, []⟩, "/", []⟩
    let entry : Entry := ⟨"a", "/", some "c -c -D\"x y\" a", none⟩
    let command : CompileCommand := ⟨⟨.root, [⟨"a", by decide⟩]⟩, ⟨.root, []⟩, "c",
      ["-D\"x y\"", "a"]⟩
    entry.command? host = some command ∧
      ¬(Words.layout "c -c -D\"x y\" a".toList).Merges ∧
      (Words.layout "c -c -D\"x y\" a".toList).words.map String.ofList = entry.words := by
  intro host entry command
  have accepted : entry.command? host = some command := by decide +kernel
  have regular : IsRegular "c -c -D\"x y\" a".toList := by
    refine ⟨fun before after h => ?_, fun before after h => ?_⟩
    · have free : '\\' ∉ "c -c -D\"x y\" a".toList := by decide
      exact absurd (h ▸ by simp) free
    · have apart : ¬['"', '"'] <:+: "c -c -D\"x y\" a".toList := by decide
      exact absurd ⟨before, after, by rw [h]; simp⟩ apart
  obtain ⟨⟨-, hwords⟩, -, hregular⟩ := words_apart_iff accepted rfl (by decide)
  exact ⟨accepted, hregular regular, hwords⟩

/-- **Escaped double quotes outside spans merge words.** The second of them opens a span for
splitting, and the flag behind it ends up within an argument. -/
theorem words_merge :
    let host : Host := ⟨⟨.root, []⟩, "/", []⟩
    let entry : Entry := ⟨"a", "/", some "c -DV=\\\"1\\\" -c -DW=\\\"2\\\" a", none⟩
    let read := Words.layout "c -DV=\\\"1\\\" -c -DW=\\\"2\\\" a".toList
    entry.command? host = some ⟨⟨.root, [⟨"a", by decide⟩]⟩, ⟨.root, []⟩, "c",
        ["-DV=\\\"1\\\" -c -DW=\\\"2\\\"", "a"]⟩ ∧
      read.Merges ∧ ¬read.KeepsStanding := by
  intro host entry read
  have hread : read = ⟨[], [("c".toList, [' ']),
      ("-DV=\\\"1\\\" -c -DW=\\\"2\\\"".toList, [' ']), ("a".toList, [])]⟩ := by
    decide +kernel
  have hmerges : read.Merges := by
    rw [hread]
    exact ⟨[("c".toList, [' '])], "-DV=\\\"1\\\"".toList, ' ', "-c -DW=\\\"2\\\"".toList, [' '],
      [("a".toList, [])], by decide, by decide, by decide⟩
  refine ⟨by decide +kernel, hmerges, fun keeps => ?_⟩
  have standing : IsStanding "c -DV=\\\"1\\\" ".toList "-c".toList " -DW=\\\"2\\\" a".toList := by
    have plain : "-c".toList.all (fun c => decide (IsPlain c)) = true := by decide
    refine ⟨by decide, fun c hc => of_decide_eq_true (List.all_eq_true.mp plain c hc), ?_, ?_,
      by decide⟩
    · rintro _ ⟨⟩
      exact isBlank_space
    · rintro _ ⟨⟩
      exact isBlank_space
  obtain ⟨earlier, gap, later, hparts, -⟩ := keeps _ _ _ (text_layout _) standing
  have hmem : "-c".toList ∈ read.words := by
    rw [Layout.words, hparts]
    simp
  rw [hread] at hmem
  exact absurd hmem (by decide)

end Entry

end ArtifactLens
