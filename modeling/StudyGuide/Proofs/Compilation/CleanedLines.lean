import StudyGuide.Compilation
import StudyGuide.Proofs.Compilation.TagGrammar
import StudyGuide.Proofs.Sanitizer.CleanText

/-!
A text can be cleaned as a whole or line by line. The sanitizer takes characters out and then
looks for lines; a compilation takes the lines one at a time. No line end is among the characters
that are taken out, and of an empty line nothing is left either way, so both come to the same
(`sanitize_eq_joinLines`). Every line that is left carries something to classify, and therefore
the blocks of a compilation are the lines of its cleaned body, one for one
(`blocks_of_cleaned_body`).
-/

set_option autoImplicit false
set_option relaxedAutoImplicit false

namespace StudyGuide

open Text

namespace Sanitizer

theorem cleanLine_nil (sanitizer : Sanitizer) : sanitizer.cleanLine [] = none := rfl

theorem sanitizeLine_nil (sanitizer : Sanitizer) : sanitizer.sanitizeLine [] = none := rfl

theorem splitAt_stripped (text : Text) :
    splitAt '\n' (stripEmphasis (removeInvisible text)) =
      (splitAt '\n' text).map fun line ↦ stripEmphasis (removeInvisible line) := by
  rw [stripEmphasis, splitAt_filter (by decide), removeInvisible, splitAt_filter (by decide),
    List.map_map]
  rfl

/-- Cleaning a text is cleaning each of its lines. -/
theorem sanitize_eq_joinLines (sanitizer : Sanitizer) (text : Text) :
    sanitizer.sanitize text =
      joinLines ((lines (unifyLineEnds text)).filterMap sanitizer.sanitizeLine) := by
  unfold sanitize
  dsimp only
  rw [filterMap_lines sanitizer.cleanLine_nil, splitAt_stripped, List.filterMap_map,
    filterMap_lines sanitizer.sanitizeLine_nil]
  rfl

/-- What is left of a line without line ends is a clean line. -/
theorem isCleanLine_of_sanitizeLine {sanitizer : Sanitizer} {line kept : Text}
    (hbreak : ∀ c ∈ line, c ∉ ['\n', '\r']) (hkept : sanitizer.sanitizeLine line = some kept) :
    sanitizer.IsCleanLine kept :=
  isCleanLine_of_cleanLine (isPlain_stripped line)
    (fun c hc ↦ hbreak c (mem_of_mem_stripped hc)) hkept

end Sanitizer

namespace Compilation

theorem splitLines_suffix (lines : List Text) : (splitLines lines).2 <:+ lines := by
  induction lines with
  | nil => exact List.suffix_rfl
  | cons line rest ih =>
    rw [splitLines]
    split_ifs with hblank
    · exact ih.trans (List.suffix_cons line rest)
    · exact List.suffix_cons line rest

/-- No line of a body holds a line end. -/
theorem no_break_of_mem_body {raw line : Text} (hline : line ∈ (splitTitle raw).2) :
    ∀ c ∈ line, c ∉ ['\n', '\r'] :=
  no_break_of_mem_lines ((splitLines_suffix _).subset hline)

theorem isCleanLine_of_mem_cleaned {sanitizer : Sanitizer} {raw kept : Text}
    (hkept : kept ∈ (splitTitle raw).2.filterMap sanitizer.sanitizeLine) :
    sanitizer.IsCleanLine kept := by
  obtain ⟨line, hline, hclean⟩ := List.mem_filterMap.mp hkept
  exact Sanitizer.isCleanLine_of_sanitizeLine (no_break_of_mem_body hline) hclean

/-- The lines of the cleaned body are what is left of the lines of the body. -/
theorem lines_sanitize_body (sanitizer : Sanitizer) (raw : Text) :
    lines (sanitizer.sanitize (joinLines (splitTitle raw).2)) =
      (splitTitle raw).2.filterMap sanitizer.sanitizeLine := by
  have hbody : '\r' ∉ joinLines (splitTitle raw).2 :=
    not_mem_joinLines (by decide) fun line hline hc ↦
      no_break_of_mem_body hline '\r' hc (by decide)
  have hread : (lines (joinLines (splitTitle raw).2)).filterMap sanitizer.sanitizeLine =
      (splitTitle raw).2.filterMap sanitizer.sanitizeLine := by
    by_cases hnil : (splitTitle raw).2 = []
    · rw [hnil]
      rfl
    · rw [filterMap_lines sanitizer.sanitizeLine_nil, splitAt_joinLines _ hnil]
      exact fun line hline hc ↦ no_break_of_mem_body hline '\n' hc (by decide)
  rw [sanitizer.sanitize_eq_joinLines, unifyLineEnds_eq_self hbody, hread]
  exact lines_joinLines
    (fun kept hkept hc ↦ (isCleanLine_of_mem_cleaned hkept).no_break '\n' hc (by decide))
    fun kept hkept ↦ (isCleanLine_of_mem_cleaned hkept).ne_nil

/-- Every clean line stands for a block. -/
theorem exists_classify_of_isCleanLine {sanitizer : Sanitizer} {line : Text}
    (h : sanitizer.IsCleanLine line) : ∃ block, Tag.classify line = some block := by
  refine Option.ne_none_iff_exists'.mp (mt (Tag.classify_eq_none_iff line).mp ?_)
  rw [(trim_eq_self_iff line).mpr h.trimmed]
  exact h.ne_nil

/-- Nothing is lost where every item has an image. -/
theorem map_some_filterMap {α β : Type} {f : α → Option β} {items : List α}
    (h : ∀ a ∈ items, ∃ b, f a = some b) : (items.filterMap f).map some = items.map f := by
  induction items with
  | nil => rfl
  | cons a rest ih =>
    obtain ⟨⟨b, hb⟩, hrest⟩ := List.forall_mem_cons.mp h
    rw [List.filterMap_cons_some hb, List.map_cons, List.map_cons, ih hrest, hb]

section Compiled

variable (sanitizer : Sanitizer) (fallbackTitle raw author : Text)

theorem blocks_compileWith :
    (compileWith sanitizer fallbackTitle raw author).1.blocks =
      ((splitTitle raw).2.filterMap sanitizer.sanitizeLine).filterMap Tag.classify := by
  rw [List.filterMap_filterMap]
  rfl

/-- What the lines of the cleaned body stand for, in their order. -/
theorem map_some_blocks :
    (compileWith sanitizer fallbackTitle raw author).1.blocks.map some =
      (lines (sanitizer.sanitize (joinLines (splitTitle raw).2))).map Tag.classify := by
  rw [blocks_compileWith, lines_sanitize_body]
  exact map_some_filterMap fun line hline ↦
    exists_classify_of_isCleanLine (isCleanLine_of_mem_cleaned hline)

theorem length_blocks_le :
    (compileWith sanitizer fallbackTitle raw author).1.blocks.length ≤
      (splitTitle raw).2.length := by
  rw [blocks_compileWith]
  exact (List.length_filterMap_le _ _).trans (List.length_filterMap_le _ _)

end Compiled

/-- Cleaning a whole text and cleaning it line by line are one. The blocks of a compilation are
what the lines of its cleaned body stand for, none of them standing for nothing, and the report
counts every line of the body once, as a block or as dropped. -/
theorem blocks_of_cleaned_body (sanitizer : Sanitizer) :
    (∀ text, sanitizer.sanitize text =
      joinLines ((lines (unifyLineEnds text)).filterMap sanitizer.sanitizeLine)) ∧
    ∀ fallbackTitle raw author,
      let body := (splitTitle raw).2
      let cleaned := lines (sanitizer.sanitize (joinLines body))
      let compiled := compileWith sanitizer fallbackTitle raw author
      cleaned.map Tag.classify = compiled.1.blocks.map some ∧
        compiled.2.blocks = cleaned.length ∧ compiled.2.bodyLines = body.length ∧
        compiled.2.blocks ≤ compiled.2.bodyLines ∧
        compiled.2.bodyLines = compiled.2.blocks + compiled.2.droppedLines := by
  refine ⟨sanitizer.sanitize_eq_joinLines, fun fallbackTitle raw author ↦ ?_⟩
  have hblocks := map_some_blocks sanitizer fallbackTitle raw author
  have hle := length_blocks_le sanitizer fallbackTitle raw author
  have hlength : (compileWith sanitizer fallbackTitle raw author).1.blocks.length =
      (lines (sanitizer.sanitize (joinLines (splitTitle raw).2))).length := by
    simpa using congrArg List.length hblocks
  exact ⟨hblocks.symm, hlength, rfl, hle, (Nat.add_sub_cancel' hle).symm⟩

end Compilation

end StudyGuide
