import StudyGuide.Proofs.Wrapping.Lines

/-!
Wrapped lines stay as they are. A line was built from what the words before it had left, and
wrapping it again begins from nothing; but it remembers what it was measured for. The piece that
opens it fits as a whole or was never too wide while it grew, and so opens a line again; and
every word it took fits again (`wrapWords_words_append`). Wrapping a wrapped line therefore
changes nothing (`wrap_of_mem_wrap`).
-/

set_option autoImplicit false
set_option relaxedAutoImplicit false

namespace StudyGuide.Wrap

open Font Text

variable {style : TextStyle} {width : Length}

/-- The words of a line, before others, build the line up again. -/
theorem wrapWords_words_append {line : Text} (hline : IsLine style width line)
    (rest : List Text) :
    wrapWords style width [] (words line ++ rest) = wrapWords style width line rest := by
  induction hline generalizing rest with
  | @piece piece hpiece =>
    calc wrapWords style width [] (words piece ++ rest)
        = wrapWords style width [] (piece :: rest) := by rw [hpiece.isWord.words_eq]; rfl
      _ = wrapWords style width piece rest := by
          rw [wrapWords_nil_cons, hpiece.opened_eq, List.nil_append]
  | @extend line word hline hword hfits ih =>
    have hextend : extend line word = line ++ ' ' :: word := extend_of_ne_nil hline.ne_nil word
    rw [← hextend] at hfits
    calc wrapWords style width [] (words (line ++ ' ' :: word) ++ rest)
        = wrapWords style width [] (words line ++ (word :: rest)) := by
          rw [words_append_blank (by decide), hword.words_eq, List.append_assoc]; rfl
      _ = wrapWords style width line (word :: rest) := ih (word :: rest)
      _ = wrapWords style width (line ++ ' ' :: word) rest := by
          rw [wrapWords_cons_of_fits hfits, hextend]

theorem wrap_of_isLine {line : Text} (hline : IsLine style width line) :
    wrap style width line = [line] := by
  have hlines : wrapWords style width [] (words line) = [line] := by
    have hwords := wrapWords_words_append hline []
    rwa [List.append_nil, wrapWords, finished_of_ne_nil hline.ne_nil] at hwords
  rw [wrap, hlines]

/-- Every line of a wrapped text, wrapped again, is one line, and the same. -/
theorem wrap_of_mem_wrap {text line : Text} (hline : line ∈ wrap style width text) :
    wrap style width line = [line] := by
  by_cases hwords : words text = []
  · rw [wrap_of_words_eq_nil hwords, List.mem_singleton] at hline
    rw [hline]
    exact wrap_of_words_eq_nil rfl
  · exact wrap_of_isLine (isLine_of_mem_wrap hwords hline)

/-- A character too wide for any line, a piece of a word that is too wide, and its last piece
with the word after it. -/
theorem wrap_overlong_word :
    let style : TextStyle := { size := 10, color := ⟨0, 0, 0⟩ }
    wrap style 9 ['W', ' ', 'i', 'i', 'i', 'i', 'i', ' ', 'i'] =
        [['W'], ['i', 'i', 'i', 'i'], ['i', ' ', 'i']] ∧
      wrap style 9 ['W'] = [['W']] ∧ wrap style 9 ['i', 'i', 'i', 'i'] = [['i', 'i', 'i', 'i']] ∧
        wrap style 9 ['i', ' ', 'i'] = [['i', ' ', 'i']] := by
  intro style
  have hlines : wrap style 9 ['W', ' ', 'i', 'i', 'i', 'i', 'i', ' ', 'i'] =
      [['W'], ['i', 'i', 'i', 'i'], ['i', ' ', 'i']] := by decide +kernel
  exact ⟨hlines, wrap_of_mem_wrap (by rw [hlines]; simp), wrap_of_mem_wrap (by rw [hlines]; simp),
    wrap_of_mem_wrap (by rw [hlines]; simp)⟩

end StudyGuide.Wrap
