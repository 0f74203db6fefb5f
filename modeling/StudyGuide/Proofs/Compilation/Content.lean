import StudyGuide.Compilation
import StudyGuide.Proofs.Text.Segments

/-!
What a compilation reads of a text. Blank lines count for nothing, neither above the title nor in
the body, and so a document is a function of the content of its text: the segments with ink on
them, the first for the title and each other one for a block or for nothing
(`document_compileWith`). How the lines end and how many blank ones stand between them is not in
the content.
-/

set_option autoImplicit false
set_option relaxedAutoImplicit false

namespace StudyGuide

open Text

namespace Sanitizer

/-- A line is cleaned without regard to its outer blanks. -/
theorem sanitizeLine_trim (sanitizer : Sanitizer) (line : Text) :
    sanitizer.sanitizeLine (trim line) = sanitizer.sanitizeLine line := by
  have hstripped (text : Text) : stripEmphasis (removeInvisible text) =
      text.filter fun c ↦ !isEmphasis c && !isInvisible c := List.filter_filter
  have hsame : trim (stripEmphasis (removeInvisible (trim line))) =
      trim (stripEmphasis (removeInvisible line)) := by
    rw [hstripped, hstripped, trim_filter_trim]
  unfold sanitizeLine cleanLine
  dsimp only
  rw [hsame]

/-- Cleaning a line is cleaning the title that it would give. -/
theorem trim_stripped (line : Text) :
    trim (stripEmphasis (removeInvisible line)) =
      trim (removeInvisible (trim (stripEmphasis line))) := by
  have hcomm : stripEmphasis (removeInvisible line) = removeInvisible (stripEmphasis line) :=
    List.filter_comm ..
  have htrim : trim (removeInvisible (trim (stripEmphasis line))) =
      trim (removeInvisible (stripEmphasis line)) := trim_filter_trim ..
  rw [hcomm, htrim]

end Sanitizer

namespace Compilation

/-- The lines of a text that are not blank. -/
def content (raw : Text) : List Text := (segments raw).filter fun line ↦ trim line ≠ []

theorem titleOf?_eq_ite (line : Text) :
    titleOf? line =
      if trim (Sanitizer.stripEmphasis line) = [] then none
      else some (trim (Sanitizer.stripEmphasis line)) := by
  have htrim : trim (Sanitizer.stripEmphasis (trim line)) = trim (Sanitizer.stripEmphasis line) :=
    trim_filter_trim ..
  unfold titleOf?
  dsimp only
  rw [htrim]

theorem blockOf?_of_blank {line : Text} (h : trim line = []) (sanitizer : Sanitizer) :
    blockOf? sanitizer line = none := by
  rw [blockOf?, ← sanitizer.sanitizeLine_trim, h]
  rfl

theorem filter_lines_eq_content (raw : Text) :
    (lines (unifyLineEnds raw)).filter (fun line ↦ trim line ≠ []) = content raw := by
  rw [content, ← List.filterMap_eq_filter, filterMap_lines_unify (by decide)]

theorem splitLines_fst (lines : List Text) :
    (splitLines lines).1 = (lines.filter fun line ↦ trim line ≠ []).head? := by
  induction lines with
  | nil => rfl
  | cons line rest ih =>
    rw [splitLines]
    by_cases hblank : trim line = []
    · rw [if_pos hblank, ih, List.filter_cons_of_neg (by simpa using hblank)]
    · rw [if_neg hblank, List.filter_cons_of_pos (by simpa using hblank), List.head?_cons]

/-- Blank lines may go where nothing comes of them. -/
theorem filterMap_filter_ink {α : Type} {f : Text → Option α}
    (hf : ∀ line, trim line = [] → f line = none) (lines : List Text) :
    (lines.filter fun line ↦ trim line ≠ []).filterMap f = lines.filterMap f := by
  rw [List.filterMap_filter]
  refine List.filterMap_congr fun line _ ↦ ?_
  by_cases hblank : trim line = []
  · rw [hf line hblank, ite_self]
  · exact if_pos (by simpa using hblank)

theorem filterMap_splitLines_snd {α : Type} {f : Text → Option α}
    (hf : ∀ line, trim line = [] → f line = none) (lines : List Text) :
    (splitLines lines).2.filterMap f =
      (lines.filter fun line ↦ trim line ≠ []).tail.filterMap f := by
  induction lines with
  | nil => rfl
  | cons line rest ih =>
    rw [splitLines]
    by_cases hblank : trim line = []
    · rw [if_pos hblank, ih, List.filter_cons_of_neg (by simpa using hblank)]
    · rw [if_neg hblank, List.filter_cons_of_pos (by simpa using hblank), List.tail_cons,
        filterMap_filter_ink hf]

theorem splitTitle_fst (raw : Text) : (splitTitle raw).1 = (content raw).head?.bind titleOf? := by
  rw [← filter_lines_eq_content, ← splitLines_fst]
  rfl

theorem filterMap_splitTitle_snd (sanitizer : Sanitizer) (raw : Text) :
    (splitTitle raw).2.filterMap (blockOf? sanitizer) =
      (content raw).tail.filterMap (blockOf? sanitizer) := by
  rw [← filter_lines_eq_content,
    ← filterMap_splitLines_snd fun line hblank ↦ blockOf?_of_blank hblank sanitizer]
  rfl

/-- The first line of the content for the title, and each other one for a block or for nothing. -/
theorem document_compileWith (sanitizer : Sanitizer) (fallbackTitle raw author : Text) :
    (compileWith sanitizer fallbackTitle raw author).1 =
      { title := ((content raw).head?.bind titleOf?).getD fallbackTitle
        author
        blocks := (content raw).tail.filterMap (blockOf? sanitizer) } := by
  rw [← splitTitle_fst, ← filterMap_splitTitle_snd]
  rfl

end Compilation

end StudyGuide
