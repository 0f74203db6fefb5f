import Mathlib.Tactic.SplitIfs
import StudyGuide.Page

/-!
The ink of a text is the text without its blanks, in order. Cutting a text into words, wrapping
it into lines and drawing a line word by word move blanks only, so each of them keeps the ink
(`flatten_words`, `ink_wrap`, `ink_runs`). What is drawn for a blank is blank, and what is drawn
for any other character holds no blank, so the ink of the drawn text is the drawn ink
(`ink_drawable`).
-/

set_option autoImplicit false
set_option relaxedAutoImplicit false

namespace StudyGuide

namespace Text

/-- A text without its blanks. -/
def ink (text : Text) : Text := text.filter fun c ↦ !isBlank c

@[simp] theorem ink_nil : ink [] = [] := rfl

@[simp] theorem ink_append (first second : Text) :
    ink (first ++ second) = ink first ++ ink second :=
  List.filter_append ..

theorem ink_cons_of_isBlank {c : Char} (hc : isBlank c = true) (rest : Text) :
    ink (c :: rest) = ink rest := by
  simp [ink, hc]

theorem ink_cons_of_not_isBlank {c : Char} (hc : isBlank c = false) (rest : Text) :
    ink (c :: rest) = c :: ink rest := by
  simp [ink, hc]

@[simp] theorem ink_cons_space (rest : Text) : ink (' ' :: rest) = ink rest :=
  ink_cons_of_isBlank (by decide) rest

theorem ink_flatMap {α : Type} (items : List α) (text : α → Text) :
    ink (items.flatMap text) = items.flatMap fun item ↦ ink (text item) := by
  induction items with
  | nil => rfl
  | cons item rest ih => rw [List.flatMap_cons, ink_append, ih, List.flatMap_cons]

@[simp] theorem ink_ink (text : Text) : ink (ink text) = ink text := by
  simp [ink, List.filter_filter]

/-! ### Words -/

theorem flatten_wordsFrom (partialWord text : Text) :
    (wordsFrom partialWord text).flatten = partialWord.reverse ++ ink text := by
  induction text generalizing partialWord with
  | nil =>
    by_cases hnil : partialWord = [] <;> simp [wordsFrom, hnil]
  | cons c rest ih =>
    by_cases hc : isBlank c = true
    · rw [ink_cons_of_isBlank hc]
      by_cases hnil : partialWord = [] <;> simp [wordsFrom, hc, hnil, ih]
    · rw [ink_cons_of_not_isBlank (by simpa using hc)]
      simp [wordsFrom, hc, ih]

/-- The words of a text, put together, are its ink. -/
theorem flatten_words (text : Text) : (words text).flatten = ink text :=
  flatten_wordsFrom [] text

/-! ### Pieces between marks -/

theorem flatten_splitAt (mark : Char) (text : Text) :
    (splitAt mark text).flatten = text.filter (· ≠ mark) := by
  induction text with
  | nil => rfl
  | cons c rest ih =>
    by_cases hc : c = mark
    · simpa [splitAt, hc] using ih
    · cases hrest : splitAt mark rest with
      | nil => simpa [splitAt, hc, hrest] using ih
      | cons piece more => simpa [splitAt, hc, hrest] using ih

theorem flatten_filter_ne_nil (texts : List Text) :
    (texts.filter (· ≠ [])).flatten = texts.flatten := by
  induction texts with
  | nil => rfl
  | cons text rest ih =>
    by_cases hnil : text = []
    · rw [List.filter_cons_of_neg (by simpa using hnil), ih, List.flatten_cons, hnil,
        List.nil_append]
    · rw [List.filter_cons_of_pos (by simpa using hnil), List.flatten_cons, List.flatten_cons, ih]

/-- Cutting at spaces keeps the ink. -/
theorem ink_filter_ne_space (text : Text) : ink (text.filter (· ≠ ' ')) = ink text := by
  unfold ink
  rw [List.filter_filter]
  congr 1
  funext c
  by_cases hc : c = ' '
  · subst hc
    decide
  · simp [hc]

end Text

/-! ### Drawn characters -/

namespace Font

open Text

/-- The characters that are drawn as a sign of their own, or not at all. -/
def replacedSigns : Text := ['\uFE0F', '\uFE0E', '\u200D', '💡', '⚠', '❓', '❔', '✅', '✔']

theorem drawn_of_not_mem {c : Char} (hc : c ∉ replacedSigns) :
    drawn c = if isDrawable c then [c] else if isBlank c then [' '] else ['?'] := by
  simp only [replacedSigns, List.mem_cons, List.not_mem_nil, or_false, not_or] at hc
  simp [drawn, hc]

theorem drawn_of_isBlank {c : Char} (hc : isBlank c = true) :
    drawn c = if isDrawable c then [c] else [' '] := by
  have hsigns : replacedSigns.any isBlank = false := by decide
  have hmem : c ∉ replacedSigns := fun hsign ↦ List.any_eq_false.mp hsigns c hsign hc
  rw [drawn_of_not_mem hmem, if_pos hc]

/-- What is drawn for a blank is blank. -/
theorem isBlank_of_mem_drawn {c d : Char} (hc : isBlank c = true) (hd : d ∈ drawn c) :
    isBlank d = true := by
  rw [drawn_of_isBlank hc] at hd
  split_ifs at hd with hdrawable
  · rw [List.mem_singleton.mp hd]
    exact hc
  · rw [List.mem_singleton.mp hd]
    decide

/-- What is drawn for a character that is no blank holds no blank. -/
theorem isBlank_eq_false_of_mem_drawn {c d : Char} (hc : isBlank c = false) (hd : d ∈ drawn c) :
    isBlank d = false := by
  have hsign {sign : Char} (hsign : isBlank sign = false) (hmem : d ∈ [sign]) :
      isBlank d = false := by
    rw [List.mem_singleton.mp hmem]
    exact hsign
  unfold drawn at hd
  simp only [hc, Bool.false_eq_true, ↓reduceIte] at hd
  split_ifs at hd
  · exact absurd hd List.not_mem_nil
  · exact hsign (by decide) hd
  · exact hsign (by decide) hd
  · exact hsign (by decide) hd
  · exact hsign (by decide) hd
  · exact hsign hc hd
  · exact hsign (by decide) hd

theorem ink_drawn_of_isBlank {c : Char} (hc : isBlank c = true) : ink (drawn c) = [] := by
  refine List.filter_eq_nil_iff.mpr fun d hd ↦ ?_
  simp [isBlank_of_mem_drawn hc hd]

theorem ink_drawn_of_not_isBlank {c : Char} (hc : isBlank c = false) : ink (drawn c) = drawn c := by
  refine List.filter_eq_self.mpr fun d hd ↦ ?_
  simp [isBlank_eq_false_of_mem_drawn hc hd]

@[simp] theorem drawable_append (first second : Text) :
    drawable (first ++ second) = drawable first ++ drawable second :=
  List.flatMap_append

theorem drawable_flatten (texts : List Text) : drawable texts.flatten = texts.flatMap drawable := by
  induction texts with
  | nil => rfl
  | cons text rest ih => rw [List.flatten_cons, drawable_append, ih, List.flatMap_cons]

/-- The ink of what is drawn is what is drawn for the ink. -/
theorem ink_drawable (text : Text) : ink (drawable text) = drawable (ink text) := by
  induction text with
  | nil => rfl
  | cons c rest ih =>
    have hcons : drawable (c :: rest) = drawn c ++ drawable rest := rfl
    rw [hcons, ink_append, ih]
    by_cases hc : isBlank c = true
    · rw [ink_drawn_of_isBlank hc, ink_cons_of_isBlank hc, List.nil_append]
    · have hc : isBlank c = false := by simpa using hc
      rw [ink_drawn_of_not_isBlank hc, ink_cons_of_not_isBlank hc]
      rfl

end Font

/-! ### Wrapped lines -/

namespace Wrap

open Text

theorem ink_extend (line word : Text) : ink (extend line word) = ink line ++ ink word := by
  unfold extend
  split_ifs with hnil
  · simp [hnil]
  · simp

theorem flatten_finished (line : Text) : (finished line).flatten = line := by
  unfold finished
  split_ifs with hnil <;> simp [hnil]

/-- Breaking a word loses none of its characters. -/
theorem flatten_breakWord (style : TextStyle) (width : Length) (piece word : Text) :
    (breakWord style width piece word).1.flatten ++ (breakWord style width piece word).2 =
      piece ++ word := by
  induction word generalizing piece with
  | nil => simp [breakWord]
  | cons c rest ih =>
    unfold breakWord
    dsimp only
    split_ifs with hfull
    · simpa using ih [c]
    · simpa using ih (piece ++ [c])

theorem ink_wrapWords (style : TextStyle) (width : Length) (line : Text) (words : List Text) :
    ink (wrapWords style width line words).flatten = ink line ++ ink words.flatten := by
  induction words generalizing line with
  | nil => simp [wrapWords, flatten_finished]
  | cons word rest ih =>
    unfold wrapWords
    split_ifs with hfits hword
    · rw [ih, ink_extend]
      simp
    · simp [ih, flatten_finished]
    · have hword := congrArg ink (flatten_breakWord style width [] word)
      rw [ink_append, List.nil_append] at hword
      simp only [List.flatten_append, flatten_finished, ink_append, ih, List.flatten_cons,
        ← hword, List.append_assoc]

/-- The lines of a text have the ink of the text. -/
theorem ink_wrap (style : TextStyle) (width : Length) (text : Text) :
    ink (wrap style width text).flatten = ink text := by
  have hlines : (wrap style width text).flatten =
      (wrapWords style width [] (words text)).flatten := by
    unfold wrap
    cases wrapWords style width [] (words text) <;> rfl
  rw [hlines, ink_wrapWords, ink_nil, List.nil_append, flatten_words, ink_ink]

end Wrap

/-! ### Lines as they are drawn -/

namespace TextRun

/-- The texts of runs, one after the other. -/
def joined (runs : List TextRun) : Text := runs.flatMap TextRun.text

@[simp] theorem joined_nil : joined [] = [] := rfl

@[simp] theorem joined_append (first second : List TextRun) :
    joined (first ++ second) = joined first ++ joined second :=
  List.flatMap_append

end TextRun

namespace Line

open Font TextRun

theorem joined_spread (style : TextStyle) (gap baseline x : Length) (words : List Text) :
    joined (spread style gap baseline x words) = drawable words.flatten := by
  induction words generalizing x with
  | nil => rfl
  | cons word rest ih =>
    rw [List.flatten_cons, drawable_append, ← ih]
    rfl

/-- A line is drawn with its ink, whether in one run or word by word. -/
theorem ink_stretched (line : Line) (baseline : Length) :
    (joined (line.stretched baseline)).ink = (drawable line.text).ink := by
  unfold stretched
  dsimp only
  split
  · simp [joined, TextRun.of]
  · rw [joined_spread, Text.flatten_filter_ne_nil, Text.flatten_splitAt, ink_drawable,
      Text.ink_filter_ne_space, ink_drawable]

theorem ink_runs (line : Line) (y : Length) :
    (joined (line.runs y)).ink = (drawable line.text).ink := by
  unfold runs
  dsimp only
  split_ifs with hstretch
  · exact line.ink_stretched _
  · simp [joined, TextRun.of]

theorem map_text_ofTexts (style : TextStyle) (x width : Length) (stretch : Bool)
    (texts : List Text) : (ofTexts style x width stretch texts).map Line.text = texts := by
  induction texts with
  | nil => rfl
  | cons text rest ih =>
    cases rest with
    | nil => rfl
    | cons next more => exact congrArg (text :: ·) ih

/-- The wrapped lines of a text, drawn one after the other, have the ink of the drawn text. -/
theorem ink_wrapped (style : TextStyle) (x width : Length) (stretch : Bool) (text : Text) :
    ((wrapped style x width stretch text).flatMap fun line ↦ (drawable line.text).ink) =
      (drawable text).ink := by
  calc ((wrapped style x width stretch text).flatMap fun line ↦ (drawable line.text).ink)
      = ((wrapped style x width stretch text).map Line.text).flatMap fun text ↦
          (drawable text).ink := by rw [List.flatMap_map]
    _ = (Wrap.wrap style width text).flatMap fun line ↦ (drawable line).ink := by
        rw [wrapped, map_text_ofTexts]
    _ = (drawable (Wrap.wrap style width text).flatten).ink := by
        rw [drawable_flatten, Text.ink_flatMap]
    _ = (drawable text).ink := by rw [ink_drawable, Wrap.ink_wrap, ink_drawable]

end Line

end StudyGuide
