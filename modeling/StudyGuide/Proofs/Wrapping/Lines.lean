import Mathlib.Data.List.Chain
import StudyGuide.Proofs.Lengths.Order
import StudyGuide.Proofs.Text.Words

/-!
What the lines of a wrapped text are made of. A word that opens a line is cut into full pieces
and a last one (`opened`): a word that fits is its own last piece. From there the line takes
words as long as they fit (`IsLine`). Wrapping goes word by word, and a word is either taken by
the line (`wrapWords_cons_of_fits`) or ends it and opens the next one (`wrapWords_cons_of_full`);
so every line of a wrapped text is such a line (`isLine_of_mem_wrap`).
-/

set_option autoImplicit false
set_option relaxedAutoImplicit false

namespace StudyGuide.Wrap

open Font Text

variable {style : TextStyle} {width : Length}

/-! ### Words that open a line -/

/-- The full pieces of a word that opens a line, and the piece that the line goes on with. -/
def opened (style : TextStyle) (width : Length) (word : Text) : List Text × Text :=
  if textWidth style word ≤ width then ([], word) else breakWord style width [] word

theorem opened_of_fits {word : Text} (hfits : textWidth style word ≤ width) :
    opened style width word = ([], word) :=
  if_pos hfits

theorem opened_of_not_fits {word : Text} (hfits : ¬textWidth style word ≤ width) :
    opened style width word = breakWord style width [] word :=
  if_neg hfits

theorem flatten_opened (style : TextStyle) (width : Length) (word : Text) :
    (opened style width word).1.flatten ++ (opened style width word).2 = word := by
  by_cases hfits : textWidth style word ≤ width
  · simp [opened_of_fits hfits]
  · simpa [opened_of_not_fits hfits] using flatten_breakWord style width [] word

/-! ### Pieces -/

/-- No beginning of the text is too wide, its first character apart. -/
def Narrow (style : TextStyle) (width : Length) (text : Text) : Prop :=
  ∀ front, front <+: text → 1 < front.length → ¬textWidth style front > width

/-- What a line can begin with: a word or a piece of one, which fits as a whole or has been
measured character by character. -/
structure IsPiece (style : TextStyle) (width : Length) (piece : Text) : Prop where
  isWord : IsWord piece
  measured : textWidth style piece ≤ width ∨ Narrow style width piece

theorem narrow_of_length_le_one {text : Text} (hlength : text.length ≤ 1) :
    Narrow style width text := by
  intro front hfront hone
  have hle := hfront.length_le
  omega

theorem Narrow.concat {text : Text} {c : Char} (htext : Narrow style width text)
    (hroom : ¬(textWidth style (text ++ [c]) > width ∧ (text ++ [c]).length > 1)) :
    Narrow style width (text ++ [c]) := by
  intro front hfront hone hwide
  rcases List.prefix_concat_iff.mp hfront with rfl | hshort
  · exact hroom ⟨hwide, hone⟩
  · exact htext front hshort hone hwide

/-- A word that is measured character by character and never found too wide stays whole. -/
theorem breakWord_of_narrow {piece word : Text} (hnarrow : Narrow style width (piece ++ word)) :
    breakWord style width piece word = ([], piece ++ word) := by
  induction word generalizing piece with
  | nil => simp [breakWord]
  | cons c rest ih =>
    have hroom : ¬(textWidth style (piece ++ [c]) > width ∧ (piece ++ [c]).length > 1) := by
      rintro ⟨hwide, hone⟩
      exact hnarrow (piece ++ [c]) ⟨rest, by simp⟩ hone hwide
    have hlonger : piece ++ c :: rest = piece ++ [c] ++ rest := by simp
    rw [hlonger] at hnarrow ⊢
    rw [breakWord]
    dsimp only
    rw [if_neg hroom, ih hnarrow]

/-- Breaking a word after `piece` gives pieces, and the last one is a piece as well. -/
theorem isPiece_breakWord {piece word : Text} (hpiece : ∀ c ∈ piece, isBlank c = false)
    (hword : ∀ c ∈ word, isBlank c = false) (hnarrow : Narrow style width piece)
    (hne : piece ≠ [] ∨ word ≠ []) :
    (∀ text ∈ (breakWord style width piece word).1, IsPiece style width text) ∧
      IsPiece style width (breakWord style width piece word).2 := by
  induction word generalizing piece with
  | nil =>
    have hne : piece ≠ [] := by simpa using hne
    exact ⟨by simp [breakWord], ⟨hne, hpiece⟩, Or.inr hnarrow⟩
  | cons c rest ih =>
    have hrest : ∀ d ∈ rest, isBlank d = false := fun d hd ↦ hword d (List.mem_cons_of_mem c hd)
    have hc : ∀ d ∈ [c], isBlank d = false := by simpa using hword c List.mem_cons_self
    unfold breakWord
    dsimp only
    split_ifs with hfull
    · -- The piece is full, so it is not empty: one character more makes two or more.
      have hpiece_ne : piece ≠ [] := by
        rintro rfl
        exact absurd hfull.2 (by simp)
      have hfresh := ih hc hrest (narrow_of_length_le_one (by simp)) (Or.inl (by simp))
      exact ⟨List.forall_mem_cons.mpr ⟨⟨⟨hpiece_ne, hpiece⟩, Or.inr hnarrow⟩, hfresh.1⟩, hfresh.2⟩
    · exact ih (List.forall_mem_append.mpr ⟨hpiece, hc⟩) hrest (hnarrow.concat hfull)
        (Or.inl (by simp))

theorem isPiece_opened (style : TextStyle) (width : Length) {word : Text} (hword : IsWord word) :
    (∀ piece ∈ (opened style width word).1, IsPiece style width piece) ∧
      IsPiece style width (opened style width word).2 := by
  by_cases hfits : textWidth style word ≤ width
  · rw [opened_of_fits hfits]
    exact ⟨by simp, hword, Or.inl hfits⟩
  · rw [opened_of_not_fits hfits]
    exact isPiece_breakWord (by simp) hword.no_blank (narrow_of_length_le_one (by simp))
      (Or.inr hword.ne_nil)

/-- A piece opens a line as it is. -/
theorem IsPiece.opened_eq {piece : Text} (hpiece : IsPiece style width piece) :
    opened style width piece = ([], piece) := by
  by_cases hfits : textWidth style piece ≤ width
  · exact opened_of_fits hfits
  · rw [opened_of_not_fits hfits]
    exact breakWord_of_narrow (hpiece.measured.resolve_left hfits)

/-- A piece is no wider than a line, unless it is one character. -/
theorem IsPiece.not_wide_or {piece : Text} (hpiece : IsPiece style width piece) :
    ¬textWidth style piece > width ∨ piece.length = 1 := by
  rcases hpiece.measured with hfits | hnarrow
  · exact Or.inl (Length.not_lt_of_le hfits)
  · have hpos := List.length_pos_of_ne_nil hpiece.isWord.ne_nil
    rcases Nat.eq_or_lt_of_le hpos with hone | hmore
    · exact Or.inr hone.symm
    · exact Or.inl (hnarrow piece List.prefix_rfl hmore)

/-! ### Lines -/

/-- A line: a piece, and then words for as long as they fit. -/
inductive IsLine (style : TextStyle) (width : Length) : Text → Prop where
  | piece {text : Text} : IsPiece style width text → IsLine style width text
  | extend {line word : Text} : IsLine style width line → IsWord word →
      textWidth style (line ++ ' ' :: word) ≤ width → IsLine style width (line ++ ' ' :: word)

theorem extend_nil (word : Text) : extend [] word = word := rfl

theorem extend_of_ne_nil {line : Text} (hne : line ≠ []) (word : Text) :
    extend line word = line ++ ' ' :: word :=
  if_neg hne

theorem finished_nil : finished [] = [] := rfl

theorem finished_of_ne_nil {line : Text} (hne : line ≠ []) : finished line = [line] :=
  if_neg hne

namespace IsLine

variable {line : Text}

theorem ne_nil (hline : IsLine style width line) : line ≠ [] := by
  cases hline with
  | piece hpiece => exact hpiece.isWord.ne_nil
  | extend => simp

/-- A line begins and ends with characters of words. -/
theorem isTrimmed (hline : IsLine style width line) : IsTrimmed line := by
  induction hline with
  | piece hpiece => exact hpiece.isWord.isTrimmed
  | @extend line word hline hword _ ih =>
    refine ⟨fun c hc ↦ ih.1 c ?_, fun c hc ↦ hword.isTrimmed.2 c ?_⟩
    · rwa [List.head?_append_of_ne_nil _ hline.ne_nil] at hc
    · rwa [List.getLast?_append_of_ne_nil _ (by simp),
        List.getLast?_cons_of_ne_nil hword.ne_nil] at hc

/-- No two spaces follow each other: a space stands between characters of words. -/
theorem isChain (hline : IsLine style width line) :
    line.IsChain fun c d ↦ ¬(c = ' ' ∧ d = ' ') := by
  have hinside {word : Text} (hword : IsWord word) :
      word.IsChain fun c d ↦ ¬(c = ' ' ∧ d = ' ') := by
    refine (List.pairwise_of_forall_mem_list ?_).isChain
    rintro c hc d - ⟨hspace, -⟩
    exact hword.ne_space hc hspace
  induction hline with
  | piece hpiece => exact hinside hpiece.isWord
  | @extend line word hline hword _ ih =>
    have hspace : (' ' :: word).IsChain fun c d ↦ ¬(c = ' ' ∧ d = ' ') :=
      List.isChain_cons.mpr ⟨fun d hd hspaces ↦
        hword.ne_space (List.mem_of_head? hd) hspaces.2, hinside hword⟩
    refine List.isChain_append.mpr ⟨ih, hspace, fun c hc d _ hspaces ↦ ?_⟩
    have hend := hline.isTrimmed.2 c hc
    rw [hspaces.1] at hend
    exact absurd hend (by decide)

theorem eq_space_of_isBlank (hline : IsLine style width line) {c : Char} (hmem : c ∈ line)
    (hc : isBlank c = true) : c = ' ' := by
  induction hline with
  | piece hpiece =>
    rw [hpiece.isWord.no_blank c hmem] at hc
    contradiction
  | @extend line word _ hword _ ih =>
    rcases List.mem_append.mp hmem with hinside | hafter
    · exact ih hinside
    · rcases List.mem_cons.mp hafter with hspace | hinside
      · exact hspace
      · rw [hword.no_blank c hinside] at hc
        contradiction

theorem not_wide_or (hline : IsLine style width line) :
    ¬textWidth style line > width ∨ line.length = 1 := by
  cases hline with
  | piece hpiece => exact hpiece.not_wide_or
  | extend _ _ hfits => exact Or.inl (Length.not_lt_of_le hfits)

end IsLine

/-- The line takes a word that fits. -/
theorem wrapWords_cons_of_fits {line word : Text}
    (hfits : textWidth style (extend line word) ≤ width) (rest : List Text) :
    wrapWords style width line (word :: rest) =
      wrapWords style width (extend line word) rest :=
  if_pos hfits

/-- A word that does not fit ends the line and opens the next one. -/
theorem wrapWords_cons_of_full {line word : Text}
    (hfull : ¬textWidth style (extend line word) ≤ width) (rest : List Text) :
    wrapWords style width line (word :: rest) =
      finished line ++ ((opened style width word).1 ++
        wrapWords style width (opened style width word).2 rest) := by
  rw [wrapWords, if_neg hfull]
  by_cases hfits : textWidth style word ≤ width
  · rw [if_pos hfits, opened_of_fits hfits, List.nil_append]
  · rw [if_neg hfits, opened_of_not_fits hfits]
    exact List.append_assoc ..

/-- Whether or not it fits, a word opens a line the same way. -/
theorem wrapWords_nil_cons (word : Text) (rest : List Text) :
    wrapWords style width [] (word :: rest) =
      (opened style width word).1 ++ wrapWords style width (opened style width word).2 rest := by
  by_cases hfits : textWidth style (extend [] word) ≤ width
  · rw [wrapWords_cons_of_fits hfits, extend_nil]
    rw [extend_nil] at hfits
    rw [opened_of_fits hfits, List.nil_append]
  · rw [wrapWords_cons_of_full hfits, finished_nil, List.nil_append]

/-- A line that has been begun, or none. -/
def IsBegun (style : TextStyle) (width : Length) (line : Text) : Prop :=
  line = [] ∨ IsLine style width line

theorem isLine_extend {line word : Text} (hline : IsBegun style width line) (hword : IsWord word)
    (hfits : textWidth style (extend line word) ≤ width) :
    IsLine style width (extend line word) := by
  rcases hline with rfl | hline
  · exact .piece ⟨hword, Or.inl hfits⟩
  · rw [extend_of_ne_nil hline.ne_nil] at hfits ⊢
    exact .extend hline hword hfits

theorem isLine_of_mem_finished {line text : Text} (hline : IsBegun style width line)
    (htext : text ∈ finished line) : IsLine style width text := by
  rcases hline with rfl | hline
  · simp [finished_nil] at htext
  · rw [finished_of_ne_nil hline.ne_nil, List.mem_singleton] at htext
    rwa [htext]

theorem isLine_of_mem_wrapWords {line : Text} {words : List Text}
    (hline : IsBegun style width line) (hwords : ∀ word ∈ words, IsWord word) {text : Text}
    (htext : text ∈ wrapWords style width line words) : IsLine style width text := by
  induction words generalizing line with
  | nil => exact isLine_of_mem_finished hline htext
  | cons word rest ih =>
    obtain ⟨hword, hrest⟩ := List.forall_mem_cons.mp hwords
    by_cases hfits : textWidth style (extend line word) ≤ width
    · rw [wrapWords_cons_of_fits hfits] at htext
      exact ih (Or.inr (isLine_extend hline hword hfits)) hrest htext
    · rw [wrapWords_cons_of_full hfits, List.mem_append, List.mem_append] at htext
      have hopened := isPiece_opened style width hword
      rcases htext with hfinished | hpiece | hafter
      · exact isLine_of_mem_finished hline hfinished
      · exact .piece (hopened.1 text hpiece)
      · exact ih (Or.inr (.piece hopened.2)) hrest hafter

theorem wrapWords_ne_nil {line : Text} (hline : line ≠ []) (words : List Text) :
    wrapWords style width line words ≠ [] := by
  induction words generalizing line with
  | nil => simp [wrapWords, finished_of_ne_nil hline]
  | cons word rest ih =>
    by_cases hfits : textWidth style (extend line word) ≤ width
    · rw [wrapWords_cons_of_fits hfits, extend_of_ne_nil hline]
      exact ih (by simp)
    · simp [wrapWords_cons_of_full hfits, finished_of_ne_nil hline]

/-! ### Wrapped texts -/

/-- A text without words has one empty line. -/
theorem wrap_of_words_eq_nil {text : Text} (hwords : words text = []) :
    wrap style width text = [[]] := by
  simp [wrap, hwords, wrapWords, finished_nil]

theorem wrap_of_words_ne_nil {text : Text} (hwords : words text ≠ []) :
    wrap style width text = wrapWords style width [] (words text) := by
  obtain ⟨word, rest, hcons⟩ := List.exists_cons_of_ne_nil hwords
  have hword : IsWord word := isWord_of_mem_words (hcons ▸ List.mem_cons_self)
  have hne : wrapWords style width [] (words text) ≠ [] := by
    rw [hcons, wrapWords_nil_cons]
    exact List.append_ne_nil_of_right_ne_nil _
      (wrapWords_ne_nil (isPiece_opened style width hword).2.isWord.ne_nil rest)
  rw [wrap]
  split
  · contradiction
  · rfl

/-- Every line of a text with words is a piece, and then words for as long as they fit. -/
theorem isLine_of_mem_wrap {text line : Text} (hwords : words text ≠ [])
    (hline : line ∈ wrap style width text) : IsLine style width line := by
  rw [wrap_of_words_ne_nil hwords] at hline
  exact isLine_of_mem_wrapWords (Or.inl rfl) (fun _ hword ↦ isWord_of_mem_words hword) hline

end StudyGuide.Wrap
