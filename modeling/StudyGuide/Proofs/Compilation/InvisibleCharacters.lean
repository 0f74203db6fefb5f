import Mathlib.Data.Bool.AllAny
import StudyGuide.Proofs.Compilation.Content

/-!
Invisible characters in the answer of a model. The lines of a body are cleaned of them, so they
make no difference there. The title line is not: a character that is neither blank nor a marker of
emphasis goes into the title (`mem_titleText_iff`), and a line of nothing else is a title all the
same. The title shows every difference they make, and the guide is the one of the text without
them exactly where none is in the title (`compile_removeInvisible`).
-/

set_option autoImplicit false
set_option relaxedAutoImplicit false

namespace StudyGuide

open Text Sanitizer

/-! ### Lines without invisible characters -/

namespace Sanitizer

theorem not_isInvisible_of_isLineEnd (c : Char) (h : isLineEnd c = true) :
    (!isInvisible c) = true := by
  rw [isLineEnd, Bool.or_eq_true, beq_iff_eq, beq_iff_eq] at h
  rcases h with rfl | rfl <;> decide

/-- No rule for titles takes out an invisible character. -/
theorem isBlank_and_isEmphasis_of_isInvisible {c : Char} (h : isInvisible c = true) :
    isBlank c = false ∧ isEmphasis c = false := by
  have hlisted : ∀ d ∈ ['\u200B', '\uFEFF', '\u00AD', '\u200C', '\u200D', '\u2060'],
      isBlank d = false ∧ isEmphasis d = false := List.all_iff_forall_prop.mp (by decide)
  exact hlisted c (by simpa [isInvisible] using h)

theorem removeInvisible_eq_self {text : Text} (h : ∀ c ∈ text, isInvisible c = false) :
    removeInvisible text = text :=
  List.filter_eq_self.mpr fun c hc ↦ by simp [h c hc]

theorem no_invisible_removeInvisible (text : Text) :
    ∀ c ∈ removeInvisible text, isInvisible c = false := by
  intro c hc
  simpa using (List.mem_filter.mp hc).2

theorem sanitizeLine_removeInvisible (sanitizer : Sanitizer) (line : Text) :
    sanitizer.sanitizeLine (removeInvisible line) = sanitizer.sanitizeLine line := by
  rw [sanitizeLine, removeInvisible_eq_self (no_invisible_removeInvisible line), sanitizeLine]

/-- A line that is blank stays so. -/
theorem ink_of_ink_removeInvisible {line : Text} (h : trim (removeInvisible line) ≠ []) :
    trim line ≠ [] := by
  contrapose! h
  have htrim : trim (removeInvisible (trim line)) = trim (removeInvisible line) :=
    trim_filter_trim ..
  rw [← htrim, h]
  rfl

end Sanitizer

namespace Compilation

/-- What is left of the content is the content of what is left. -/
theorem content_removeInvisible (raw : Text) :
    content (removeInvisible raw) =
      ((content raw).map removeInvisible).filter fun line ↦ trim line ≠ [] := by
  have hsegments : segments (removeInvisible raw) = (segments raw).map removeInvisible :=
    segments_filter not_isInvisible_of_isLineEnd raw
  rw [content, hsegments, content, List.filter_map, List.filter_map, List.filter_filter]
  congr 1
  refine List.filter_congr fun line _ ↦ ?_
  by_cases hink : trim (removeInvisible line) = []
  · simp [hink]
  · simp [hink, ink_of_ink_removeInvisible hink]

theorem blockOf?_removeInvisible (sanitizer : Sanitizer) (line : Text) :
    blockOf? sanitizer (removeInvisible line) = blockOf? sanitizer line := by
  rw [blockOf?, sanitizeLine_removeInvisible, blockOf?]

/-- The same blocks come of the lines after a title line. -/
theorem filterMap_blockOf?_removeInvisible (sanitizer : Sanitizer) (lines : List Text) :
    ((lines.map removeInvisible).filter fun line ↦ trim line ≠ []).filterMap
        (blockOf? sanitizer) = lines.filterMap (blockOf? sanitizer) := by
  rw [filterMap_filter_ink fun line hblank ↦ blockOf?_of_blank hblank sanitizer,
    List.filterMap_map]
  exact List.filterMap_congr fun line _ ↦ blockOf?_removeInvisible sanitizer line

/-! ### Titles -/

theorem mem_titleText_iff {c : Char} (hc : isInvisible c = true) (line : Text) :
    c ∈ trim (stripEmphasis line) ↔ c ∈ line := by
  obtain ⟨hblank, hemphasis⟩ := isBlank_and_isEmphasis_of_isInvisible hc
  rw [mem_trim_iff hblank, stripEmphasis, List.mem_filter, hemphasis]
  exact and_iff_left rfl

theorem no_invisible_title_removeInvisible {fallbackTitle : Text}
    (hfallback : ∀ c ∈ fallbackTitle, isInvisible c = false) (sanitizer : Sanitizer)
    (raw author : Text) :
    ∀ c ∈ (compileWith sanitizer fallbackTitle (removeInvisible raw) author).1.title,
      isInvisible c = false := by
  rw [document_compileWith]
  dsimp only
  cases htitle : (content (removeInvisible raw)).head?.bind titleOf? with
  | none => exact hfallback
  | some title =>
    obtain ⟨line, hline, htitle⟩ := Option.bind_eq_some_iff.mp htitle
    have hline : line ∈ content (removeInvisible raw) := List.mem_of_mem_head? hline
    rw [content_removeInvisible] at hline
    obtain ⟨original, -, rfl⟩ := List.mem_map.mp (List.mem_of_mem_filter hline)
    rw [titleOf?_eq_ite] at htitle
    split_ifs at htitle
    obtain rfl := Option.some.inj htitle
    exact fun c hc ↦ no_invisible_removeInvisible original c
      (List.mem_of_mem_filter (mem_of_mem_trim hc))

/-- A title without invisible characters comes of a line without any. -/
theorem no_invisible_of_title {sanitizer : Sanitizer} {fallbackTitle raw author line : Text}
    {rest : List Text} (hcontent : content raw = line :: rest)
    (h : ∀ c ∈ (compileWith sanitizer fallbackTitle raw author).1.title, isInvisible c = false) :
    ∀ c ∈ line, isInvisible c = false := by
  refine fun c hc ↦ Bool.eq_false_iff.mpr fun hinvisible ↦ ?_
  have hmem : c ∈ trim (stripEmphasis line) := (mem_titleText_iff hinvisible line).mpr hc
  rw [document_compileWith, hcontent, List.head?_cons, Option.bind_some, titleOf?_eq_ite,
    if_neg (List.ne_nil_of_mem hmem), Option.getD_some] at h
  exact absurd (h c hmem) (by simp [hinvisible])

/-! ### Documents -/

/-- Where the title line is one without its invisible characters too, the body stays the same. -/
theorem blocks_removeInvisible {raw line : Text} {rest : List Text}
    (hcontent : content raw = line :: rest) (hink : trim (removeInvisible line) ≠ [])
    (sanitizer : Sanitizer) (fallbackTitle author : Text) :
    (compileWith sanitizer fallbackTitle (removeInvisible raw) author).1.blocks =
      (compileWith sanitizer fallbackTitle raw author).1.blocks := by
  rw [document_compileWith, document_compileWith, content_removeInvisible, hcontent,
    List.map_cons, List.filter_cons_of_pos (by simpa using hink)]
  exact filterMap_blockOf?_removeInvisible sanitizer rest

theorem document_removeInvisible_eq_iff {fallbackTitle : Text}
    (hfallback : ∀ c ∈ fallbackTitle, isInvisible c = false) (sanitizer : Sanitizer)
    (raw author : Text) :
    (compileWith sanitizer fallbackTitle (removeInvisible raw) author).1 =
        (compileWith sanitizer fallbackTitle raw author).1 ↔
      ∀ c ∈ (compileWith sanitizer fallbackTitle raw author).1.title, isInvisible c = false := by
  constructor
  · intro h
    rw [← h]
    exact no_invisible_title_removeInvisible hfallback sanitizer raw author
  · intro htitle
    rw [document_compileWith, document_compileWith, content_removeInvisible]
    cases hcontent : content raw with
    | nil => rfl
    | cons line rest =>
      have hline : removeInvisible line = line :=
        removeInvisible_eq_self (no_invisible_of_title hcontent htitle)
      have hink : trim line ≠ [] := by
        have hmem : line ∈ content raw := hcontent ▸ List.mem_cons_self
        simpa using (List.mem_filter.mp hmem).2
      rw [List.map_cons, hline, List.filter_cons_of_pos (by simpa using hink), List.head?_cons,
        List.head?_cons, List.tail_cons, List.tail_cons, filterMap_blockOf?_removeInvisible]

/-- The guide of a text is that of the text without its invisible characters exactly where its
title holds none of them. Its blocks are the same already where the title line has ink on it
without them. -/
theorem compile_removeInvisible (raw author : Text) :
    (compile (removeInvisible raw) author = compile raw author ↔
        ∀ c ∈ (compile raw author).title, isInvisible c = false) ∧
      ∀ line ∈ (content raw).head?, trim (removeInvisible line) ≠ [] →
        (compile (removeInvisible raw) author).blocks = (compile raw author).blocks := by
  have hdefault : ∀ c ∈ defaultTitle, isInvisible c = false :=
    List.all_iff_forall_prop.mp (by decide)
  refine ⟨document_removeInvisible_eq_iff hdefault default raw author, fun line hline hink ↦ ?_⟩
  obtain ⟨rest, hcontent⟩ := List.head?_eq_some_iff.mp hline
  exact blocks_removeInvisible hcontent hink default defaultTitle author

/-- A title line behind a byte order mark. -/
def markedTitle : Text := "\uFEFFFotosíntesis"

/-- An answer under that title, with a soft hyphen in its body. -/
def markedAnswer : Text := markedTitle ++ '\n' :: "SECCIÓN: L\u00ADuz".toList

theorem marks_spare_blocks :
    markedTitle ∈ (content markedAnswer).head? ∧ trim (removeInvisible markedTitle) ≠ [] ∧
      (compile (removeInvisible markedAnswer) []).blocks = (compile markedAnswer []).blocks := by
  have hline : markedTitle ∈ (content markedAnswer).head? := by decide +kernel
  have hink : trim (removeInvisible markedTitle) ≠ [] := by decide +kernel
  exact ⟨hline, hink, (compile_removeInvisible markedAnswer []).2 _ hline hink⟩

/-- A byte order mark at the front of an answer is the first character of its title. -/
theorem byte_order_mark_in_title :
    compile "\uFEFFFotosíntesis\nSECCIÓN: Luz" [] ≠
      compile (removeInvisible "\uFEFFFotosíntesis\nSECCIÓN: Luz") [] := by
  decide +kernel

end Compilation

end StudyGuide
