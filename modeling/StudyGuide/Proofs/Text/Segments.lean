import StudyGuide.Proofs.Text.Lines

/-!
A text cut at every LF and every CR. A CRLF is cut twice, with nothing between the two cuts, so
the segments of a text are its lines with more empty ones among them (`filterMap_lines_unify`).
That makes segments the simpler view wherever empty lines count for nothing: they follow a text
through concatenation (`segments_append_newline`) and through the taking out of characters
(`segments_filter`), which lines do not, since a CR may meet an LF there.

Trimming is idle under a filter that trims again (`trim_filter_trim`).
-/

set_option autoImplicit false
set_option relaxedAutoImplicit false

namespace StudyGuide.Text

/-! ### Segments -/

def isLineEnd (c : Char) : Bool := c == '\n' || c == '\r'

def segments (text : Text) : List Text := text.splitOnP isLineEnd

theorem segments_cons_of_isLineEnd {c : Char} (hc : isLineEnd c = true) (rest : Text) :
    segments (c :: rest) = [] :: segments rest := by
  rw [segments, List.splitOnP_cons_eq_if_modifyHead, if_pos hc, segments]

theorem segments_cons_of_not_isLineEnd {c : Char} (hc : isLineEnd c = false) (rest : Text) :
    segments (c :: rest) = (segments rest).modifyHead (List.cons c) := by
  rw [segments, List.splitOnP_cons_eq_if_modifyHead, if_neg (by simp [hc]), segments]

theorem segments_append_of_isLineEnd {c : Char} (hc : isLineEnd c = true) (first second : Text) :
    segments (first ++ c :: second) = segments first ++ segments second :=
  List.splitOnP_append_cons first second hc

theorem segments_append_newline (first second : Text) :
    segments (first ++ '\n' :: second) = segments first ++ segments second :=
  segments_append_of_isLineEnd (by decide) first second

theorem segments_eq_singleton {text : Text} (h : ∀ c ∈ text, isLineEnd c = false) :
    segments text = [text] :=
  List.splitOnP_eq_singleton h

theorem isBlank_of_isLineEnd {c : Char} (h : isLineEnd c = true) : isBlank c = true := by
  rw [isLineEnd, Bool.or_eq_true, beq_iff_eq, beq_iff_eq] at h
  rcases h with rfl | rfl <;> decide

/-- Taking out characters that end no line leaves every segment where it is. -/
theorem segments_filter {keep : Char → Bool} (hkeep : ∀ c, isLineEnd c = true → keep c = true)
    (text : Text) : segments (text.filter keep) = (segments text).map (List.filter keep) := by
  induction text with
  | nil => rfl
  | cons c rest ih =>
    by_cases hend : isLineEnd c = true
    · rw [List.filter_cons_of_pos (hkeep c hend), segments_cons_of_isLineEnd hend,
        segments_cons_of_isLineEnd hend, ih]
      rfl
    · have hend : isLineEnd c = false := by simpa using hend
      obtain ⟨first, more, hrest⟩ := List.exists_cons_of_ne_nil
        (List.splitOnP_ne_nil isLineEnd rest)
      have hrest : segments rest = first :: more := hrest
      rw [segments_cons_of_not_isLineEnd hend, hrest, List.modifyHead_cons, List.map_cons]
      rw [hrest, List.map_cons] at ih
      by_cases hc : keep c = true
      · rw [List.filter_cons_of_pos hc, List.filter_cons_of_pos hc,
          segments_cons_of_not_isLineEnd hend, ih, List.modifyHead_cons]
      · rw [List.filter_cons_of_neg hc, List.filter_cons_of_neg hc, ih]

/-! ### Segments and lines -/

/-- Both views begin alike, and what comes of the pieces after that is the same where nothing
comes of an empty one. -/
theorem exists_segments_eq {α : Type} {f : Text → Option α} (hf : f [] = none) (text : Text) :
    ∃ first pieces more, splitAt '\n' (unifyLineEnds text) = first :: pieces ∧
      segments text = first :: more ∧ pieces.filterMap f = more.filterMap f := by
  induction text using unifyLineEnds.induct with
  | case1 => exact ⟨[], [], [], rfl, rfl, rfl⟩
  | case2 rest ih =>
    obtain ⟨first, pieces, more, hsplit, hsegments, hsame⟩ := ih
    refine ⟨[], first :: pieces, [] :: first :: more, ?_, ?_, ?_⟩
    · rw [unifyLineEnds, splitAt, if_pos rfl, hsplit]
    · rw [segments_cons_of_isLineEnd (by decide), segments_cons_of_isLineEnd (by decide), hsegments]
    · rw [List.filterMap_cons_none hf, List.filterMap_cons, List.filterMap_cons, hsame]
  | case3 c rest hcrlf ih =>
    obtain ⟨first, pieces, more, hsplit, hsegments, hsame⟩ := ih
    rw [unifyLineEnds.eq_3 c rest hcrlf]
    by_cases hend : isLineEnd c = true
    · refine ⟨[], first :: pieces, first :: more, ?_, ?_, ?_⟩
      · have hunified : (if c = '\r' then '\n' else c) = '\n' := by
          rw [isLineEnd, Bool.or_eq_true, beq_iff_eq, beq_iff_eq] at hend
          rcases hend with rfl | rfl <;> decide
        rw [hunified, splitAt, if_pos rfl, hsplit]
      · rw [segments_cons_of_isLineEnd hend, hsegments]
      · rw [List.filterMap_cons, List.filterMap_cons, hsame]
    · have hend : isLineEnd c = false := by simpa using hend
      obtain ⟨hnewline, hreturn⟩ : c ≠ '\n' ∧ c ≠ '\r' := by simpa [isLineEnd] using hend
      refine ⟨c :: first, pieces, more, ?_, ?_, hsame⟩
      · rw [if_neg hreturn, splitAt, if_neg hnewline, hsplit]
      · rw [segments_cons_of_not_isLineEnd hend, hsegments, List.modifyHead_cons]

/-- Where nothing comes of an empty line, lines and segments come to the same. -/
theorem filterMap_lines_unify {α : Type} {f : Text → Option α} (hf : f [] = none) (text : Text) :
    (lines (unifyLineEnds text)).filterMap f = (segments text).filterMap f := by
  obtain ⟨first, pieces, more, hsplit, hsegments, hsame⟩ := exists_segments_eq hf text
  rw [filterMap_lines hf, hsplit, hsegments, List.filterMap_cons, List.filterMap_cons, hsame]

/-! ### Trimming under a filter -/

theorem trimStart_append_of_blank {blanks text : Text} (h : ∀ c ∈ blanks, isBlank c = true) :
    trimStart (blanks ++ text) = trimStart text :=
  List.dropWhile_append_of_pos h

theorem trim_append_of_blank {before text after : Text} (hbefore : ∀ c ∈ before, isBlank c = true)
    (hafter : ∀ c ∈ after, isBlank c = true) : trim (before ++ text ++ after) = trim text := by
  rw [trim, List.append_assoc, trimStart_append_of_blank hbefore]
  by_cases hblank : ∀ c ∈ text, isBlank c = true
  · -- Nothing is left of a blank text on either side.
    have htext : trimStart (text ++ after) = [] := by
      rw [trimStart_append_of_blank hblank]
      exact List.dropWhile_eq_nil_iff.mpr hafter
    have hnone : trim text = [] := (trim_eq_nil_iff text).mpr ((isBlankText_iff text).mpr hblank)
    rw [htext, hnone]
    rfl
  · have hstart : trimStart (text ++ after) = trimStart text ++ after := by
      rw [trimStart, List.dropWhile_append, if_neg, trimStart]
      simpa [List.isEmpty_iff, List.dropWhile_eq_nil_iff] using hblank
    rw [hstart, trimEnd_append_of_blank hafter, trim]

theorem trimEnd_append (first second : Text) :
    trimEnd (first ++ second) =
      if trimEnd second = [] then trimEnd first else first ++ trimEnd second := by
  unfold trimEnd
  rw [List.reverse_append, List.dropWhile_append]
  by_cases hblank : second.reverse.dropWhile isBlank = []
  · rw [hblank]
    rfl
  · rw [if_neg (by simpa using hblank), if_neg (by simpa using hblank), List.reverse_append,
      List.reverse_reverse]

/-- Trimming cuts into no text that is trimmed itself. -/
theorem isInfix_trim {text pattern : Text} (hpattern : IsTrimmed pattern) (hne : pattern ≠ [])
    (hheld : pattern <:+: text) : pattern <:+: trim text := by
  obtain ⟨before, after, rfl⟩ := hheld
  have hstart : ∃ kept, trimStart (before ++ pattern ++ after) = kept ++ pattern ++ after := by
    rw [List.append_assoc, trimStart, List.dropWhile_append]
    split_ifs with hblank
    · have hhead : ∀ c ∈ (pattern ++ after).head?, isBlank c = false := by
        rw [List.head?_append_of_ne_nil _ hne]
        exact hpattern.1
      exact ⟨[], trimStart_eq_self hhead⟩
    · exact ⟨_, (List.append_assoc ..).symm⟩
  obtain ⟨kept, hkept⟩ := hstart
  rw [trim, hkept, trimEnd_append]
  split_ifs with hblank
  · rw [trimEnd_append, trimEnd_eq_self hpattern.2, if_neg hne]
    exact List.infix_append_right ..
  · exact ⟨kept, trimEnd after, rfl⟩

/-- A text is what trimming leaves of it, between blanks. -/
theorem exists_eq_append_trim (text : Text) :
    ∃ before after, text = before ++ trim text ++ after ∧
      (∀ c ∈ before, isBlank c = true) ∧ ∀ c ∈ after, isBlank c = true := by
  have hstart : text = text.takeWhile isBlank ++ trimStart text :=
    List.takeWhile_append_dropWhile.symm
  have hend : trimStart text = trim text ++ (trimStart text).rtakeWhile isBlank :=
    (List.rdropWhile_append_rtakeWhile ..).symm
  refine ⟨text.takeWhile isBlank, (trimStart text).rtakeWhile isBlank, ?_,
    fun c hc ↦ List.mem_takeWhile_imp hc, fun c hc ↦ List.mem_rtakeWhile_imp hc⟩
  rw [List.append_assoc, ← hend]
  exact hstart

/-- What is trimmed off leaves blanks at most under a filter, and these are trimmed off again. -/
theorem trim_filter_trim (keep : Char → Bool) (text : Text) :
    trim ((trim text).filter keep) = trim (text.filter keep) := by
  obtain ⟨before, after, htext, hbefore, hafter⟩ := exists_eq_append_trim text
  have hfilter : text.filter keep =
      before.filter keep ++ (trim text).filter keep ++ after.filter keep := by
    rw [← List.filter_append, ← List.filter_append, ← htext]
  rw [hfilter, trim_append_of_blank (fun c hc ↦ hbefore c (List.mem_of_mem_filter hc))
    fun c hc ↦ hafter c (List.mem_of_mem_filter hc)]

/-- A character that is no blank is not trimmed off. -/
theorem mem_trim_iff {c : Char} (hc : isBlank c = false) (text : Text) :
    c ∈ trim text ↔ c ∈ text := by
  refine ⟨mem_of_mem_trim, fun hmem ↦ ?_⟩
  obtain ⟨before, after, htext, hbefore, hafter⟩ := exists_eq_append_trim text
  rw [htext, List.mem_append, List.mem_append] at hmem
  rcases hmem with (hstart | hinside) | hend
  · exact absurd (hbefore c hstart) (by simp [hc])
  · exact hinside
  · exact absurd (hafter c hend) (by simp [hc])

/-- What does not start with a blank keeps its first character. -/
theorem exists_trim_cons {c : Char} (hc : isBlank c = false) (rest : Text) :
    ∃ more, trim (c :: rest) = c :: more := by
  obtain ⟨before, after, htext, hbefore, hafter⟩ := exists_eq_append_trim (c :: rest)
  have hne : trim (c :: rest) ≠ [] := List.ne_nil_of_mem ((mem_trim_iff hc _).mpr (by simp))
  cases before with
  | nil =>
    obtain ⟨d, more, hcons⟩ := List.exists_cons_of_ne_nil hne
    rw [hcons] at htext ⊢
    exact ⟨more, by rw [(List.cons.inj htext).1]⟩
  | cons d more =>
    rw [(List.cons.inj htext).1, hbefore d List.mem_cons_self] at hc
    contradiction

end StudyGuide.Text
