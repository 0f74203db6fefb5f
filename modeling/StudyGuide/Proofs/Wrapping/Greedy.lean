import StudyGuide.Proofs.Wrapping.Lines

/-!
Wrapping is greedy. Between two lines the words of a text are cut somewhere (`Cut`), between two
words or inside one, and the line before the cut ends there because it has to: the word after it
does not fit, or the next character makes it too wide (`exists_cut_of_wrapWords`). The characters
before a cut tell where it is (`Cut.eq_of_read_eq`), so this holds of every line wherever it ends,
and with what the lines are made of it says what wrapping does (`isGreedy_wrap`).
-/

set_option autoImplicit false
set_option relaxedAutoImplicit false

namespace StudyGuide.Wrap

open Font Text

variable {style : TextStyle} {width : Length}

/-! ### Cuts -/

/-- Words cut before the character `next`: the words `done` stand before the cut, and so do the
characters `front` of the word that `next` stands in. -/
@[ext] structure Cut where
  done : List Text
  front : Text
  next : Char
  back : Text
  rest : List Text

namespace Cut

/-- The word that `next` stands in. -/
def word (cut : Cut) : Text := cut.front ++ cut.next :: cut.back

/-- All the words. -/
def words (cut : Cut) : List Text := cut.done ++ cut.word :: cut.rest

/-- The characters before the cut. -/
def read (cut : Cut) : Text := cut.done.flatten ++ cut.front

/-- A line that ends at the cut has no room for more: between two words, because the next word
does not fit; inside a word, because the next character makes the line too wide. -/
structure EndsLine (style : TextStyle) (width : Length) (cut : Cut) (line : Text) : Prop where
  between : cut.front = [] → ¬textWidth style (line ++ ' ' :: cut.word) ≤ width
  inside : cut.front ≠ [] → textWidth style (line ++ [cut.next]) > width

/-- The cut with one more word before it. -/
def after (cut : Cut) (word : Text) : Cut := { cut with done := word :: cut.done }

@[simp] theorem words_after (cut : Cut) (word : Text) :
    (cut.after word).words = word :: cut.words := rfl

@[simp] theorem read_after (cut : Cut) (word : Text) :
    (cut.after word).read = word ++ cut.read := by
  simp [read, after]

theorem EndsLine.after {cut : Cut} {line : Text} (hends : cut.EndsLine style width line)
    (word : Text) : (cut.after word).EndsLine style width line :=
  ⟨hends.between, hends.inside⟩

theorem flatten_words (cut : Cut) :
    cut.words.flatten = cut.read ++ cut.next :: (cut.back ++ cut.rest.flatten) := by
  simp [words, word, read]

/-- With the same characters before it, a cut has no more whole words before it than another. -/
theorem length_done_le {first second : Cut} (hwords : first.words = second.words)
    (hread : first.read = second.read) : first.done.length ≤ second.done.length := by
  by_contra hlonger
  -- The word that the second cut goes through stands before the first cut as a whole.
  have hwhole : second.done ++ [second.word] <+: first.done := by
    have hsecond : second.done ++ [second.word] <+: first.words := by
      rw [hwords]
      exact ⟨second.rest, by simp [words]⟩
    refine List.prefix_of_prefix_length_le hsecond (List.prefix_append ..) ?_
    rw [List.length_append, List.length_singleton]
    omega
  obtain ⟨more, hdone⟩ := hwhole
  have hlength := congrArg List.length hread
  simp only [read, word, ← hdone, List.flatten_append, List.length_append, List.flatten_cons,
    List.flatten_nil, List.append_nil, List.length_cons] at hlength
  omega

/-- The characters before a cut tell where it is. -/
theorem eq_of_read_eq {first second : Cut} (hwords : first.words = second.words)
    (hread : first.read = second.read) : first = second := by
  have hlength : first.done.length = second.done.length :=
    le_antisymm (length_done_le hwords hread) (length_done_le hwords.symm hread.symm)
  obtain ⟨hdone, hcons⟩ := List.append_inj hwords hlength
  obtain ⟨hword, hrest⟩ := List.cons.inj hcons
  have hfront : first.front = second.front := by
    rw [read, read, hdone] at hread
    exact List.append_cancel_left hread
  rw [word, word, hfront] at hword
  obtain ⟨hnext, hback⟩ := List.cons.inj (List.append_cancel_left hword)
  exact Cut.ext hdone hfront hnext hback hrest

end Cut

/-! ### Where lines end -/

theorem append_eq_append_cons {α : Type} {first second before after : List α} {a : α}
    (h : first ++ second = before ++ a :: after) :
    (∃ mid, first = before ++ a :: mid ∧ after = mid ++ second) ∨
      ∃ mid, before = first ++ mid ∧ second = mid ++ a :: after := by
  rcases List.append_eq_append_iff.mp h with ⟨mid, hbefore, hsecond⟩ | ⟨mid, hfirst, hafter⟩
  · exact Or.inr ⟨mid, hbefore, hsecond⟩
  · cases mid with
    | nil => exact Or.inr ⟨[], by simpa using hfirst.symm, by simpa using hafter.symm⟩
    | cons b mid =>
      obtain ⟨hhead, htail⟩ := List.cons.inj hafter
      exact Or.inl ⟨mid, hhead ▸ hfirst, htail⟩

/-- A piece ends before the character that makes it too wide. -/
theorem wide_of_breakWord {piece word line : Text} {before after : List Text}
    (hpieces : (breakWord style width piece word).1 = before ++ line :: after) :
    ∃ next back, piece ++ word = (before ++ [line]).flatten ++ next :: back ∧
      textWidth style (line ++ [next]) > width := by
  induction word generalizing piece before with
  | nil => simp [breakWord] at hpieces
  | cons c rest ih =>
    unfold breakWord at hpieces
    dsimp only at hpieces
    split_ifs at hpieces with hfull
    · cases before with
      | nil =>
        obtain ⟨rfl, -⟩ := List.cons.inj hpieces
        exact ⟨c, rest, by simp, hfull.1⟩
      | cons first before =>
        obtain ⟨hpiece, hmore⟩ := List.cons.inj hpieces
        obtain ⟨next, back, hword, hwide⟩ := ih hmore
        exact ⟨next, back, by simpa [hpiece] using hword, hwide⟩
    · obtain ⟨next, back, hword, hwide⟩ := ih hpieces
      exact ⟨next, back, by simpa using hword, hwide⟩

/-- A full piece of a word that opens a line ends inside the word. -/
theorem exists_cut_of_opened {word line : Text} {before after : List Text} (hword : IsWord word)
    (hpieces : (opened style width word).1 = before ++ line :: after) (rest : List Text) :
    ∃ cut : Cut, cut.words = word :: rest ∧ cut.read = ink (before ++ [line]).flatten ∧
      cut.EndsLine style width line := by
  have hpiece : IsPiece style width line :=
    (isPiece_opened style width hword).1 line (by simp [hpieces])
  have hfits : ¬textWidth style word ≤ width := by
    intro hfits
    simp [opened_of_fits hfits] at hpieces
  rw [opened_of_not_fits hfits] at hpieces
  obtain ⟨next, back, hcut, hwide⟩ := wide_of_breakWord hpieces
  rw [List.nil_append] at hcut
  have hfront : ∀ c ∈ (before ++ [line]).flatten, isBlank c = false := fun c hc ↦
    hword.no_blank c (hcut ▸ List.mem_append_left _ hc)
  refine ⟨⟨[], (before ++ [line]).flatten, next, back, rest⟩, ?_, ?_, ?_, fun _ ↦ hwide⟩
  · rw [hcut]
    rfl
  · rw [ink_of_no_blank hfront]
    rfl
  · intro hnil
    simp [hpiece.isWord.ne_nil] at hnil

theorem ink_opened {word : Text} (hword : IsWord word) :
    ink (opened style width word).1.flatten ++ ink (opened style width word).2 = word := by
  rw [← ink_append, flatten_opened, hword.ink_eq]

theorem finished_append_cases {begun line : Text} {lines before after : List Text}
    (h : finished begun ++ lines = before ++ line :: after) :
    (begun = line ∧ line ≠ [] ∧ before = [] ∧ lines = after) ∨
      ∃ mid, before = finished begun ++ mid ∧ lines = mid ++ line :: after := by
  rcases append_eq_append_cons h with ⟨mid, hbegun, rfl⟩ | hlines
  · refine Or.inl ?_
    unfold finished at hbegun
    split_ifs at hbegun with hnil
    · simp at hbegun
    · obtain ⟨rfl, hrest⟩ | ⟨mid', rfl, hrest⟩ := List.cons_eq_append_iff.mp hbegun
      · obtain ⟨hline, hmid⟩ := List.cons.inj hrest
        exact ⟨hline.symm, hline ▸ hnil, rfl, by simp [hmid]⟩
      · simp at hrest
  · exact Or.inr hlines

/-- Every line but the last ends at a cut of the words, and has no room for more there. -/
theorem exists_cut_of_wrapWords {begun line : Text} {words before after : List Text}
    (hwords : ∀ word ∈ words, IsWord word)
    (hlines : wrapWords style width begun words = before ++ line :: after) (hafter : after ≠ []) :
    ∃ cut : Cut, cut.words = words ∧
      ink (before ++ [line]).flatten = ink begun ++ cut.read ∧
        cut.EndsLine style width line := by
  -- What was begun when the words are reached has been read before all of them.
  induction words generalizing begun before with
  | nil =>
    rw [wrapWords, ← List.append_nil (finished begun)] at hlines
    rcases finished_append_cases hlines with ⟨-, -, -, hnil⟩ | ⟨mid, -, hnil⟩
    · exact absurd hnil.symm hafter
    · simp at hnil
  | cons word rest ih =>
    obtain ⟨hword, hrest⟩ := List.forall_mem_cons.mp hwords
    by_cases hfits : textWidth style (extend begun word) ≤ width
    · rw [wrapWords_cons_of_fits hfits] at hlines
      obtain ⟨cut, hcut, hread, hends⟩ := ih hrest hlines
      refine ⟨cut.after word, by rw [Cut.words_after, hcut], ?_, hends.after word⟩
      rw [hread, ink_extend, hword.ink_eq, Cut.read_after, List.append_assoc]
    · rw [wrapWords_cons_of_full hfits] at hlines
      rcases finished_append_cases hlines with ⟨rfl, hne, rfl, -⟩ | ⟨mid, rfl, hmid⟩
      · -- The word that does not fit ends the line that was begun.
        obtain ⟨next, back, rfl⟩ := List.exists_cons_of_ne_nil hword.ne_nil
        rw [extend_of_ne_nil hne] at hfits
        exact ⟨⟨[], [], next, back, rest⟩, rfl, by simp [Cut.read], fun _ ↦ hfits, absurd rfl⟩
      rw [List.append_assoc, List.flatten_append, flatten_finished, ink_append]
      rcases append_eq_append_cons hmid with ⟨more, hpieces, -⟩ | ⟨more, rfl, hmore⟩
      · obtain ⟨cut, hcut, hread, hends⟩ := exists_cut_of_opened hword hpieces rest
        exact ⟨cut, hcut, by rw [hread], hends⟩
      · -- The line ends further on, after the word.
        obtain ⟨cut, hcut, hread, hends⟩ := ih hrest hmore
        have hink : ink ((opened style width word).1 ++ more ++ [line]).flatten =
            word ++ cut.read := by
          rw [List.append_assoc, List.flatten_append, ink_append, hread, ← List.append_assoc,
            ink_opened hword]
        refine ⟨cut.after word, by rw [Cut.words_after, hcut], ?_, hends.after word⟩
        rw [hink, Cut.read_after]

/-! ### Whole words -/

theorem joinWith_finished_extend {word : Text} (hword : word ≠ []) (begun : Text)
    (rest : List Text) :
    joinWith [' '] (finished (extend begun word) ++ rest) =
      joinWith [' '] (finished begun ++ word :: rest) := by
  by_cases hnil : begun = []
  · rw [hnil, extend_nil, finished_of_ne_nil hword, finished_nil]
    rfl
  · rw [extend_of_ne_nil hnil, finished_of_ne_nil (by simp), finished_of_ne_nil hnil]
    cases rest <;> simp [joinWith]

theorem joinWith_finished_append {first second : List Text} (hfirst : first ≠ [])
    (hsecond : second ≠ []) (hjoin : joinWith [' '] first = joinWith [' '] second)
    (begun : Text) :
    joinWith [' '] (finished begun ++ first) = joinWith [' '] (finished begun ++ second) := by
  by_cases hnil : begun = []
  · rwa [hnil, finished_nil]
  · rw [finished_of_ne_nil hnil, List.singleton_append, List.singleton_append,
      joinWith_cons_of_ne_nil _ _ hfirst, joinWith_cons_of_ne_nil _ _ hsecond, hjoin]

/-- Words that all fit are parted anew, and none of them is broken. -/
theorem joinWith_wrapWords {begun : Text} {words : List Text}
    (hwords : ∀ word ∈ words, IsWord word)
    (hfit : ∀ word ∈ words, textWidth style word ≤ width) :
    joinWith [' '] (wrapWords style width begun words) =
      joinWith [' '] (finished begun ++ words) := by
  induction words generalizing begun with
  | nil => rw [wrapWords, List.append_nil]
  | cons word rest ih =>
    obtain ⟨hword, hrest⟩ := List.forall_mem_cons.mp hwords
    obtain ⟨hwidth, hwidths⟩ := List.forall_mem_cons.mp hfit
    by_cases hfits : textWidth style (extend begun word) ≤ width
    · rw [wrapWords_cons_of_fits hfits, ih hrest hwidths,
        joinWith_finished_extend hword.ne_nil]
    · have hnext : joinWith [' '] (wrapWords style width word rest) =
          joinWith [' '] (word :: rest) := by
        rw [ih hrest hwidths, finished_of_ne_nil hword.ne_nil, List.singleton_append]
      rw [wrapWords_cons_of_full hfits, opened_of_fits hwidth, List.nil_append,
        joinWith_finished_append (wrapWords_ne_nil hword.ne_nil rest) (by simp) hnext]

/-! ### Wrapped texts -/

/-- The characters of lines, one line after the other, without the spaces. -/
def unspaced (lines : List Text) : Text := lines.flatten.filter (· ≠ ' ')

theorem unspaced_eq_ink {lines : List Text} (hlines : ∀ line ∈ lines, IsLine style width line) :
    unspaced lines = ink lines.flatten := by
  refine List.filter_congr fun c hc ↦ ?_
  obtain ⟨line, hline, hmem⟩ := List.mem_flatten.mp hc
  by_cases hspace : c = ' '
  · rw [hspace]
    decide
  · have hblank : isBlank c ≠ true := fun hblank ↦
      hspace ((hlines line hline).eq_space_of_isBlank hmem hblank)
    simp [hspace, hblank]

/-- A line that is not empty, has no space at its ends and no two in a row, and no other blank. -/
structure IsTidy (line : Text) : Prop where
  ne_nil : line ≠ []
  trimmed : IsTrimmed line
  single : ¬[' ', ' '] <:+: line
  eq_space : ∀ c ∈ line, isBlank c = true → c = ' '

theorem IsLine.isTidy {line : Text} (hline : IsLine style width line) : IsTidy line where
  ne_nil := hline.ne_nil
  trimmed := hline.isTrimmed
  single hdouble := by
    have hspaces := hline.isChain.infix hdouble
    simp at hspaces
  eq_space _ := hline.eq_space_of_isBlank

/-- The lines that words are wrapped into. Of no words there is one empty line; it is apart, since
the width of nothing is more than a negative width. -/
structure IsGreedy (style : TextStyle) (width : Length) (words lines : List Text) : Prop where
  empty_iff : lines = [[]] ↔ words = []
  tidy : words ≠ [] → ∀ line ∈ lines, IsTidy line
  narrow : words ≠ [] → ∀ line ∈ lines, ¬textWidth style line > width ∨ line.length = 1
  unspaced_eq : unspaced lines = words.flatten
  whole : (∀ word ∈ words, textWidth style word ≤ width) →
    joinWith [' '] lines = joinWith [' '] words
  /-- A line that ends at a cut of the words has no room for more. -/
  full : ∀ (before after : List Text) (line : Text) (cut : Cut),
    lines = before ++ line :: after → cut.words = words →
      unspaced (before ++ [line]) = cut.read → cut.EndsLine style width line

theorem isGreedy_nil : IsGreedy style width [] [[]] where
  empty_iff := by simp
  tidy hne := absurd rfl hne
  narrow hne := absurd rfl hne
  unspaced_eq := rfl
  whole _ := rfl
  full _ _ _ cut _ hcut := by simp [Cut.words] at hcut

theorem isGreedy_wrapWords {words : List Text} (hwords : ∀ word ∈ words, IsWord word)
    (hne : words ≠ []) : IsGreedy style width words (wrapWords style width [] words) := by
  have hlines (line : Text) (hline : line ∈ wrapWords style width [] words) :
      IsLine style width line := isLine_of_mem_wrapWords (Or.inl rfl) hwords hline
  have hflat : ∀ c ∈ words.flatten, isBlank c = false := fun c hc ↦ by
    obtain ⟨word, hword, hmem⟩ := List.mem_flatten.mp hc
    exact (hwords word hword).no_blank c hmem
  have hunspaced : unspaced (wrapWords style width [] words) = words.flatten := by
    rw [unspaced_eq_ink hlines, ink_wrapWords, ink_nil, List.nil_append, ink_of_no_blank hflat]
  have hfull (before after : List Text) (line : Text) (cut : Cut)
      (hsplit : wrapWords style width [] words = before ++ line :: after)
      (hcut : cut.words = words) (hread : unspaced (before ++ [line]) = cut.read) :
      cut.EndsLine style width line := by
    -- The characters after the cut are in further lines.
    have hafter : after ≠ [] := by
      rintro rfl
      rw [hsplit, hread, ← hcut, cut.flatten_words] at hunspaced
      simp at hunspaced
    have hbefore : ∀ text ∈ before ++ [line], IsLine style width text := fun text htext ↦
      hlines text (by rw [hsplit, List.append_cons]; exact List.mem_append_left _ htext)
    obtain ⟨other, hother, hink, hends⟩ := exists_cut_of_wrapWords hwords hsplit hafter
    have hsame : other = cut := by
      refine Cut.eq_of_read_eq (hother.trans hcut.symm) ?_
      rw [← hread, unspaced_eq_ink hbefore, hink, ink_nil, List.nil_append]
    rwa [hsame] at hends
  exact
    { empty_iff := ⟨fun h ↦ absurd rfl (hlines [] (by simp [h])).ne_nil, fun h ↦ absurd h hne⟩
      tidy := fun _ line hline ↦ (hlines line hline).isTidy
      narrow := fun _ line hline ↦ (hlines line hline).not_wide_or
      unspaced_eq := hunspaced
      whole := joinWith_wrapWords hwords
      full := hfull }

/-- Wrapping a text gives the greedy lines of its words. -/
theorem isGreedy_wrap (style : TextStyle) (width : Length) (text : Text) :
    IsGreedy style width (words text) (wrap style width text) := by
  by_cases hwords : words text = []
  · rw [wrap_of_words_eq_nil hwords, hwords]
    exact isGreedy_nil
  · rw [wrap_of_words_ne_nil hwords]
    exact isGreedy_wrapWords (fun _ hword ↦ isWord_of_mem_words hword) hwords

end StudyGuide.Wrap
