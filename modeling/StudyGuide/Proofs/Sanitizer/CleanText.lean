import StudyGuide.Proofs.Text.Lines
import StudyGuide.Sanitizer

/-!
Clean texts, told without the sanitizer's own tests: lines joined by single line ends, each of
them content in plain characters. The sanitizer is the projection onto them. Whatever it is
given, what comes out is clean (`isClean_sanitize`), and exactly the clean texts come out as they
went in (`sanitize_projects`), so cleaning twice is cleaning once.

The characters that vanish are taken out before the lines are judged. That is why no line that is
kept can lose anything in a second pass: `cleanLine` trims and drops, and a trimmed line without
those characters is judged in the same form again.
-/

set_option autoImplicit false
set_option relaxedAutoImplicit false

namespace StudyGuide.Sanitizer

open Text

/-- A line that carries content and nothing that is to be removed. -/
structure IsCleanLine (sanitizer : Sanitizer) (line : Text) : Prop where
  not_blank : ∃ c ∈ line, isBlank c = false
  trimmed : IsTrimmed line
  no_break : ∀ c ∈ line, c ∉ ['\n', '\r']
  no_emphasis : ∀ c ∈ line, c ∉ ['*', '#', '_']
  no_invisible : ∀ c ∈ line, c ∉ ['\u200B', '\uFEFF', '\u00AD', '\u200C', '\u200D', '\u2060']
  no_opener : ∀ c ∈ line.head?, c ∉ ['!', '¡', '(']
  no_fence : ¬['\x60', '\x60', '\x60'] <+: line
  no_marker : ∀ marker ∈ sanitizer.markers, ¬marker <:+: lowercase line

/-- Clean lines with a single LF between each two neighbours, or no text at all. -/
def IsClean (sanitizer : Sanitizer) (text : Text) : Prop :=
  text = [] ∨ ∃ lines, (∀ line ∈ lines, sanitizer.IsCleanLine line) ∧ text = joinLines lines

/-! ### Characters that vanish -/

/-- Text without invisible characters and markers of emphasis. -/
def IsPlain (text : Text) : Prop := ∀ c ∈ text, isInvisible c = false ∧ isEmphasis c = false

theorem isPlain_stripped (text : Text) : IsPlain (stripEmphasis (removeInvisible text)) := by
  intro c hc
  obtain ⟨hmem, hemphasis⟩ := List.mem_filter.mp hc
  obtain ⟨-, hinvisible⟩ := List.mem_filter.mp hmem
  exact ⟨by simpa using hinvisible, by simpa using hemphasis⟩

theorem stripped_eq_self {text : Text} (h : IsPlain text) :
    stripEmphasis (removeInvisible text) = text := by
  have hinvisible : removeInvisible text = text :=
    List.filter_eq_self.mpr fun c hc ↦ by simp [(h c hc).1]
  rw [hinvisible]
  exact List.filter_eq_self.mpr fun c hc ↦ by simp [(h c hc).2]

theorem mem_of_mem_stripped {text : Text} {c : Char}
    (hc : c ∈ stripEmphasis (removeInvisible text)) : c ∈ text :=
  List.mem_of_mem_filter (List.mem_of_mem_filter hc)

/-! ### Lines that are kept -/

theorem isPreamble_eq_false_iff (sanitizer : Sanitizer) (line : Text) :
    sanitizer.isPreamble line = false ↔
      (∀ c ∈ line.head?, c ∉ ['!', '¡', '(']) ∧
        ∀ marker ∈ sanitizer.markers, ¬marker <:+: lowercase line := by
  unfold isPreamble
  rw [Bool.or_eq_false_iff]
  refine and_congr ?_ ?_
  · cases line <;> simp
  · simp [← contains_iff]

/-- A line is kept when its trimmed form is neither empty nor a fence nor a preamble, and what is
kept is that form. -/
theorem cleanLine_eq_some_iff (sanitizer : Sanitizer) (line kept : Text) :
    sanitizer.cleanLine line = some kept ↔
      trim line = kept ∧ kept ≠ [] ∧ isFence kept = false ∧ sanitizer.isPreamble kept = false := by
  unfold cleanLine
  dsimp only
  split_ifs with hdropped
  · simp only [Bool.or_eq_true, decide_eq_true_eq] at hdropped
    refine iff_of_false (by simp) ?_
    rintro ⟨rfl, hne, hfence, hpreamble⟩
    rcases hdropped with (hnil | hfenced) | hpreambled
    · exact hne hnil
    · exact absurd hfenced (by simp [hfence])
    · exact absurd hpreambled (by simp [hpreamble])
  · simp only [Bool.or_eq_true, decide_eq_true_eq, not_or, Bool.not_eq_true] at hdropped
    obtain ⟨⟨hne, hfence⟩, hpreamble⟩ := hdropped
    constructor
    · intro h
      obtain rfl := Option.some.inj h
      exact ⟨rfl, hne, hfence, hpreamble⟩
    · rintro ⟨rfl, -⟩
      rfl

/-- What is kept of a plain line without line ends is a clean line. -/
theorem isCleanLine_of_cleanLine {sanitizer : Sanitizer} {line kept : Text} (hplain : IsPlain line)
    (hbreak : ∀ c ∈ line, c ∉ ['\n', '\r']) (hkept : sanitizer.cleanLine line = some kept) :
    sanitizer.IsCleanLine kept := by
  obtain ⟨rfl, hne, hfence, hpreamble⟩ := (cleanLine_eq_some_iff ..).mp hkept
  obtain ⟨hopener, hmarker⟩ := (isPreamble_eq_false_iff ..).mp hpreamble
  have htrimmed := isTrimmed_trim line
  exact
    { not_blank := exists_not_isBlank_of_isTrimmed htrimmed hne
      trimmed := htrimmed
      no_break := fun c hc ↦ hbreak c (mem_of_mem_trim hc)
      no_emphasis := fun c hc ↦ by simpa [isEmphasis] using (hplain c (mem_of_mem_trim hc)).2
      no_invisible := fun c hc ↦ by simpa [isInvisible] using (hplain c (mem_of_mem_trim hc)).1
      no_opener := hopener
      no_fence := by
        rw [← startsWith_iff]
        simpa [isFence] using hfence
      no_marker := hmarker }

namespace IsCleanLine

variable {sanitizer : Sanitizer} {line : Text}

theorem ne_nil (h : sanitizer.IsCleanLine line) : line ≠ [] := by
  obtain ⟨c, hc, -⟩ := h.not_blank
  exact List.ne_nil_of_mem hc

theorem isPlain (h : sanitizer.IsCleanLine line) : IsPlain line := fun c hc ↦
  ⟨by simpa [isInvisible] using h.no_invisible c hc, by simpa [isEmphasis] using h.no_emphasis c hc⟩

/-- A clean line is kept as it is. -/
theorem cleanLine_eq (h : sanitizer.IsCleanLine line) : sanitizer.cleanLine line = some line := by
  refine (cleanLine_eq_some_iff ..).mpr ⟨(trim_eq_self_iff line).mpr h.trimmed, h.ne_nil, ?_, ?_⟩
  · have hfence := h.no_fence
    rw [← startsWith_iff] at hfence
    simpa [isFence] using hfence
  · exact (isPreamble_eq_false_iff ..).mpr ⟨h.no_opener, h.no_marker⟩

end IsCleanLine

/-! ### Whole texts -/

theorem isClean_sanitize (sanitizer : Sanitizer) (text : Text) :
    sanitizer.IsClean (sanitizer.sanitize text) := by
  refine Or.inr ⟨_, fun kept hkept ↦ ?_, rfl⟩
  obtain ⟨line, hline, hclean⟩ := List.mem_filterMap.mp hkept
  refine isCleanLine_of_cleanLine (fun c hc ↦ ?_) (fun c hc ↦ ?_) hclean
  · exact isPlain_stripped _ c (mem_of_mem_lines hline hc).1
  · obtain ⟨hmem, hnewline⟩ := mem_of_mem_lines hline hc
    have hreturn : c ≠ '\r' := fun h ↦
      not_mem_unifyLineEnds text (h ▸ mem_of_mem_stripped hmem)
    simp [hnewline, hreturn]

/-- A clean text holds no character that vanishes and no line end but LF. -/
theorem isPlain_joinLines {sanitizer : Sanitizer} {lines : List Text}
    (h : ∀ line ∈ lines, sanitizer.IsCleanLine line) :
    IsPlain (joinLines lines) ∧ '\r' ∉ joinLines lines := by
  constructor
  · intro c hc
    rcases mem_of_mem_joinLines hc with rfl | ⟨line, hline, hmem⟩
    · decide
    · exact (h line hline).isPlain c hmem
  · exact not_mem_joinLines (by decide) fun line hline hc ↦
      (h line hline).no_break '\r' hc (by decide)

theorem sanitize_eq_self {sanitizer : Sanitizer} {text : Text} (h : sanitizer.IsClean text) :
    sanitizer.sanitize text = text := by
  rcases h with rfl | ⟨lines, hlines, rfl⟩
  · rfl
  · obtain ⟨hplain, hreturn⟩ := isPlain_joinLines hlines
    have hread : Text.lines (joinLines lines) = lines :=
      lines_joinLines (fun line hline hc ↦ (hlines line hline).no_break '\n' hc (by decide))
        fun line hline ↦ (hlines line hline).ne_nil
    have hkept : lines.filterMap sanitizer.cleanLine = lines := by
      rw [List.filterMap_congr fun line hline ↦ (hlines line hline).cleanLine_eq,
        List.filterMap_some]
    unfold sanitize
    dsimp only
    rw [unifyLineEnds_eq_self hreturn, stripped_eq_self hplain, hread, hkept]

/-- Cleaning gives a clean text, changes exactly the texts that are not clean, and is done after
one pass. -/
theorem sanitize_projects (sanitizer : Sanitizer) (text : Text) :
    sanitizer.IsClean (sanitizer.sanitize text) ∧
      (sanitizer.sanitize text = text ↔ sanitizer.IsClean text) ∧
      sanitizer.sanitize (sanitizer.sanitize text) = sanitizer.sanitize text := by
  refine ⟨isClean_sanitize sanitizer text, ⟨fun h ↦ ?_, sanitize_eq_self⟩,
    sanitize_eq_self (isClean_sanitize sanitizer text)⟩
  rw [← h]
  exact isClean_sanitize sanitizer text

end StudyGuide.Sanitizer
