import Mathlib.Data.List.DropRight
import Mathlib.Tactic.SplitIfs
import StudyGuide.Text.Basic

/-!
Lines, trimmed texts and search, told by what the results look like. A text that is trimmed has
no blank at either end, and trimming changes exactly the texts that are not (`trim_eq_self_iff`).
Lines hold no line end, and lines that are not empty can be joined and read back
(`lines_joinLines`). Taking characters out of a text takes them out of its lines, up to empty
lines at the end (`splitAt_filter`, `filterMap_lines`). Search finds a pattern exactly when it
stands somewhere in the text (`contains_iff`).
-/

set_option autoImplicit false
set_option relaxedAutoImplicit false

namespace StudyGuide.Text

/-! ### Trimmed texts -/

/-- There is no blank at either end. -/
def IsTrimmed (text : Text) : Prop :=
  (∀ c ∈ text.head?, isBlank c = false) ∧ ∀ c ∈ text.getLast?, isBlank c = false

theorem trimEnd_eq_rdropWhile (text : Text) : trimEnd text = text.rdropWhile isBlank := rfl

theorem isPrefix_trimEnd (text : Text) : trimEnd text <+: text :=
  List.rdropWhile_prefix isBlank text

theorem isSuffix_trimStart (text : Text) : trimStart text <:+ text :=
  List.dropWhile_suffix isBlank

theorem mem_of_mem_trim {c : Char} {text : Text} (hc : c ∈ trim text) : c ∈ text :=
  (isSuffix_trimStart text).subset ((isPrefix_trimEnd _).subset hc)

theorem isTrimmed_trim (text : Text) : IsTrimmed (trim text) := by
  constructor
  · intro c hc
    obtain ⟨rest, hrest⟩ := isPrefix_trimEnd (trimStart text)
    have hstart : (trimStart text).head? = some c := by
      rw [← hrest, List.head?_append]
      have hhead : (trimEnd (trimStart text)).head? = some c := hc
      rw [hhead, Option.some_or]
    have hfirst := List.head?_dropWhile_not isBlank text
    have hdrop : (text.dropWhile isBlank).head? = some c := hstart
    rw [hdrop] at hfirst
    exact hfirst
  · intro c hc
    obtain ⟨hne, rfl⟩ := List.mem_getLast?_eq_getLast hc
    exact Bool.eq_false_iff.mpr (List.rdropWhile_last_not isBlank (trimStart text) hne)

theorem trimStart_eq_self {text : Text} (h : ∀ c ∈ text.head?, isBlank c = false) :
    trimStart text = text := by
  cases text with
  | nil => rfl
  | cons c rest => exact List.dropWhile_cons_of_neg (by simp [h c rfl])

theorem trimEnd_eq_self {text : Text} (h : ∀ c ∈ text.getLast?, isBlank c = false) :
    trimEnd text = text := by
  rw [trimEnd_eq_rdropWhile, List.rdropWhile_eq_self_iff]
  intro hne
  rw [h (text.getLast hne) (List.getLast?_eq_some_getLast hne)]
  exact Bool.false_ne_true

/-- Blanks at the end do not count. -/
theorem trimEnd_append_of_blank {text blanks : Text} (h : ∀ c ∈ blanks, isBlank c = true) :
    trimEnd (text ++ blanks) = trimEnd text := by
  have hreverse : ∀ c ∈ blanks.reverse, isBlank c = true := fun c hc ↦ h c (List.mem_reverse.mp hc)
  rw [trimEnd, List.reverse_append, List.dropWhile_append_of_pos hreverse, trimEnd]

theorem trim_eq_self_iff (text : Text) : trim text = text ↔ IsTrimmed text := by
  constructor
  · intro h
    rw [← h]
    exact isTrimmed_trim text
  · rintro ⟨hstart, hend⟩
    rw [trim, trimStart_eq_self hstart, trimEnd_eq_self hend]

theorem isBlankText_iff (text : Text) : isBlankText text = true ↔ ∀ c ∈ text, isBlank c = true :=
  List.all_eq_true

/-- Exactly the blank texts are empty once they are trimmed. -/
theorem trim_eq_nil_iff (text : Text) : trim text = [] ↔ isBlankText text = true := by
  rw [isBlankText_iff, trim, trimEnd_eq_rdropWhile, List.rdropWhile_eq_nil_iff]
  constructor
  · intro hrest c hc
    rw [← List.takeWhile_append_dropWhile (p := isBlank) (l := text), List.mem_append] at hc
    rcases hc with hstart | hend
    · exact List.mem_takeWhile_imp hstart
    · exact hrest c hend
  · intro hblank c hc
    exact hblank c ((isSuffix_trimStart text).subset hc)

/-- What is left after trimming holds a character that is no blank, unless it is empty. -/
theorem exists_not_isBlank_of_isTrimmed {text : Text} (h : IsTrimmed text) (hne : text ≠ []) :
    ∃ c ∈ text, isBlank c = false := by
  obtain ⟨c, rest, rfl⟩ := List.exists_cons_of_ne_nil hne
  exact ⟨c, List.mem_cons_self, h.1 c rfl⟩

/-! ### Lines -/

theorem lines_cons_of_lines_eq_nil {c : Char} (hc : c ≠ '\n') {rest : Text}
    (hrest : lines rest = []) : lines (c :: rest) = [[c]] := by
  rw [lines, if_neg hc, hrest]

theorem lines_cons_of_lines_eq_cons {c : Char} (hc : c ≠ '\n') {rest line : Text}
    {more : List Text} (hrest : lines rest = line :: more) :
    lines (c :: rest) = (c :: line) :: more := by
  rw [lines, if_neg hc, hrest]

theorem lines_append_newline {line : Text} (hline : '\n' ∉ line) (rest : Text) :
    lines (line ++ '\n' :: rest) = line :: lines rest := by
  induction line with
  | nil => simp [lines]
  | cons c line ih =>
    obtain ⟨hc, hline⟩ := not_or.mp (mt List.mem_cons.mpr hline)
    exact lines_cons_of_lines_eq_cons (Ne.symm hc) (ih hline)

theorem lines_eq_singleton {line : Text} (hline : '\n' ∉ line) (hne : line ≠ []) :
    lines line = [line] := by
  induction line with
  | nil => exact absurd rfl hne
  | cons c line ih =>
    obtain ⟨hc, hline⟩ := not_or.mp (mt List.mem_cons.mpr hline)
    by_cases hnil : line = []
    · rw [hnil]
      exact lines_cons_of_lines_eq_nil (Ne.symm hc) rfl
    · exact lines_cons_of_lines_eq_cons (Ne.symm hc) (ih hline hnil)

/-- The characters of a line come from the text, and none of them ends a line. -/
theorem mem_of_mem_lines {text line : Text} (hline : line ∈ lines text) {c : Char}
    (hc : c ∈ line) : c ∈ text ∧ c ≠ '\n' := by
  induction text generalizing line with
  | nil => simp [lines] at hline
  | cons d rest ih =>
    by_cases hd : d = '\n'
    · rw [lines, if_pos hd] at hline
      rcases List.mem_cons.mp hline with rfl | hmem
      · simp at hc
      · exact ⟨List.mem_cons_of_mem d (ih hmem hc).1, (ih hmem hc).2⟩
    · cases hrest : lines rest with
      | nil =>
        rw [lines_cons_of_lines_eq_nil hd hrest, List.mem_singleton] at hline
        rw [hline, List.mem_singleton] at hc
        exact ⟨hc ▸ List.mem_cons_self, hc ▸ hd⟩
      | cons first more =>
        rw [lines_cons_of_lines_eq_cons hd hrest] at hline
        rw [hrest] at ih
        rcases List.mem_cons.mp hline with rfl | hmem
        · rcases List.mem_cons.mp hc with rfl | hfirst
          · exact ⟨List.mem_cons_self, hd⟩
          · have h := ih List.mem_cons_self hfirst
            exact ⟨List.mem_cons_of_mem d h.1, h.2⟩
        · have h := ih (List.mem_cons_of_mem first hmem) hc
          exact ⟨List.mem_cons_of_mem d h.1, h.2⟩

theorem joinLines_cons_cons (line next : Text) (more : List Text) :
    joinLines (line :: next :: more) = line ++ '\n' :: joinLines (next :: more) := by
  simp [joinLines, joinWith]

/-- Lines that hold no line end and are not empty are read back from their joined text. -/
theorem lines_joinLines {texts : List Text} (hlines : ∀ line ∈ texts, '\n' ∉ line)
    (hne : ∀ line ∈ texts, line ≠ []) : lines (joinLines texts) = texts := by
  induction texts with
  | nil => rfl
  | cons line rest ih =>
    cases rest with
    | nil => exact lines_eq_singleton (hlines line List.mem_cons_self) (hne line List.mem_cons_self)
    | cons next more =>
      rw [joinLines_cons_cons, lines_append_newline (hlines line List.mem_cons_self),
        ih (fun other hother ↦ hlines other (List.mem_cons_of_mem line hother))
          fun other hother ↦ hne other (List.mem_cons_of_mem line hother)]

theorem joinWith_cons_of_ne_nil (separator text : Text) {texts : List Text} (hne : texts ≠ []) :
    joinWith separator (text :: texts) = text ++ separator ++ joinWith separator texts := by
  obtain ⟨next, more, rfl⟩ := List.exists_cons_of_ne_nil hne
  rfl

/-- Joining brings in the separator alone. -/
theorem mem_of_mem_joinWith {separator : Text} {texts : List Text} {c : Char}
    (hc : c ∈ joinWith separator texts) : c ∈ separator ∨ ∃ text ∈ texts, c ∈ text := by
  induction texts with
  | nil => simp [joinWith] at hc
  | cons text rest ih =>
    cases rest with
    | nil => exact Or.inr ⟨text, List.mem_cons_self, hc⟩
    | cons next more =>
      rw [joinWith_cons_of_ne_nil _ _ (List.cons_ne_nil next more), List.mem_append,
        List.mem_append] at hc
      rcases hc with (htext | hseparator) | hrest
      · exact Or.inr ⟨text, List.mem_cons_self, htext⟩
      · exact Or.inl hseparator
      · rcases ih hrest with hseparator | ⟨other, hother, hmem⟩
        · exact Or.inl hseparator
        · exact Or.inr ⟨other, List.mem_cons_of_mem text hother, hmem⟩

theorem mem_of_mem_joinLines {texts : List Text} {c : Char} (hc : c ∈ joinLines texts) :
    c = '\n' ∨ ∃ line ∈ texts, c ∈ line := by
  simpa using mem_of_mem_joinWith hc

theorem not_mem_joinLines {texts : List Text} {c : Char} (hc : c ≠ '\n')
    (h : ∀ line ∈ texts, c ∉ line) : c ∉ joinLines texts := by
  intro hmem
  rcases mem_of_mem_joinLines hmem with hnewline | ⟨line, hline, hinside⟩
  · exact hc hnewline
  · exact h line hline hinside

/-! ### Pieces between marks -/

theorem splitAt_eq_splitOn (mark : Char) (text : Text) : splitAt mark text = text.splitOn mark := by
  induction text with
  | nil => rfl
  | cons c rest ih =>
    rw [splitAt, ih, List.splitOn_eq_splitOnP, List.splitOn_eq_splitOnP,
      List.splitOnP_cons_eq_if_modifyHead]
    by_cases hc : c = mark
    · simp [hc]
    · cases hrest : rest.splitOnP (· == mark) with
      | nil => exact absurd hrest (List.splitOnP_ne_nil _ _)
      | cons piece more => simp [hc]

theorem splitAt_ne_nil (mark : Char) (text : Text) : splitAt mark text ≠ [] := by
  rw [splitAt_eq_splitOn, List.splitOn_eq_splitOnP]
  exact List.splitOnP_ne_nil _ _

theorem splitAt_append_mark (mark : Char) (first second : Text) :
    splitAt mark (first ++ mark :: second) = splitAt mark first ++ splitAt mark second := by
  simp only [splitAt_eq_splitOn, List.splitOn_eq_splitOnP]
  exact List.splitOnP_append_cons first second (by simp)

theorem splitAt_of_not_mem {mark : Char} {text : Text} (h : mark ∉ text) :
    splitAt mark text = [text] := by
  rw [splitAt_eq_splitOn, List.splitOn_eq_splitOnP]
  exact List.splitOnP_eq_singleton fun c hc ↦ by simpa using ne_of_mem_of_not_mem hc h

theorem joinWith_eq_intercalate (separator : Text) (texts : List Text) :
    joinWith separator texts = separator.intercalate texts := by
  induction texts with
  | nil => rfl
  | cons text rest ih =>
    cases rest with
    | nil => simp [joinWith]
    | cons next more => simp [joinWith, ih]

theorem joinWith_splitAt (mark : Char) (text : Text) :
    joinWith [mark] (splitAt mark text) = text := by
  rw [splitAt_eq_splitOn, joinWith_eq_intercalate]
  exact List.intercalate_splitOn mark

/-- Pieces end where a mark stands. -/
theorem exists_cut_of_splitAt {mark : Char} {text : Text} {first second : List Text}
    (h : splitAt mark text = first ++ second) (hfirst : first ≠ []) (hsecond : second ≠ []) :
    ∃ before after, text = before ++ mark :: after ∧ splitAt mark before = first := by
  induction text generalizing first with
  | nil =>
    have hlength := congrArg List.length h
    have hpos := List.length_pos_iff.mpr hfirst
    have hpos' := List.length_pos_iff.mpr hsecond
    simp only [splitAt, List.length_singleton, List.length_append] at hlength
    omega
  | cons c rest ih =>
    obtain ⟨piece, more, rfl⟩ := List.exists_cons_of_ne_nil hfirst
    by_cases hc : c = mark
    · subst hc
      simp only [splitAt, ↓reduceIte, List.cons_append, List.cons.injEq] at h
      obtain ⟨rfl, hrest⟩ := h
      by_cases hmore : more = []
      · exact ⟨[], rest, rfl, by rw [hmore, splitAt]⟩
      · obtain ⟨before, after, rfl, hbefore⟩ := ih hrest hmore
        exact ⟨c :: before, after, rfl, by simp [splitAt, hbefore]⟩
    · obtain ⟨head, tail, hrest⟩ := List.exists_cons_of_ne_nil (splitAt_ne_nil mark rest)
      simp only [splitAt, hc, ↓reduceIte, hrest, List.cons_append, List.cons.injEq] at h
      obtain ⟨rfl, rfl⟩ := h
      have hparts : splitAt mark rest = (head :: more) ++ second := hrest
      obtain ⟨before, after, rfl, hbefore⟩ := ih hparts (List.cons_ne_nil head more)
      exact ⟨c :: before, after, rfl, by simp [splitAt, hc, hbefore]⟩

/-- Pieces that hold no line end are read back from their joined text, the empty ones too. -/
theorem splitAt_joinLines {texts : List Text} (hlines : ∀ line ∈ texts, '\n' ∉ line)
    (hne : texts ≠ []) : splitAt '\n' (joinLines texts) = texts := by
  rw [splitAt_eq_splitOn, joinLines, joinWith_eq_intercalate]
  exact List.splitOn_intercalate '\n' hlines hne

/-- The last piece is no line if it is empty; every other piece is one. -/
theorem splitAt_newline_cases (text : Text) :
    splitAt '\n' text = lines text ∨ splitAt '\n' text = lines text ++ [[]] := by
  induction text with
  | nil => exact Or.inr rfl
  | cons c rest ih =>
    by_cases hc : c = '\n'
    · simpa [splitAt, lines, hc] using ih
    · cases hrest : lines rest with
      | nil =>
        rw [lines_cons_of_lines_eq_nil hc hrest]
        rw [hrest] at ih
        rcases ih with hsplit | hsplit
        · exact absurd hsplit (splitAt_ne_nil _ _)
        · exact Or.inl (by simp [splitAt, hc, hsplit])
      | cons line more =>
        rw [lines_cons_of_lines_eq_cons hc hrest]
        rw [hrest] at ih
        rcases ih with hsplit | hsplit
        · exact Or.inl (by simp [splitAt, hc, hsplit])
        · exact Or.inr (by simp [splitAt, hc, hsplit])

/-- Where nothing comes of an empty line, lines and pieces come to the same. -/
theorem filterMap_lines {α : Type} {f : Text → Option α} (hf : f [] = none) (text : Text) :
    (lines text).filterMap f = (splitAt '\n' text).filterMap f := by
  rcases splitAt_newline_cases text with hsplit | hsplit <;> simp [hsplit, hf]

/-- Taking out characters that are no marks leaves every piece where it is. -/
theorem splitAt_filter {p : Char → Bool} {mark : Char} (hmark : p mark = true) (text : Text) :
    splitAt mark (text.filter p) = (splitAt mark text).map (List.filter p) := by
  induction text with
  | nil => rfl
  | cons c rest ih =>
    by_cases hc : c = mark
    · subst hc
      simp [splitAt, hmark, ih]
    · obtain ⟨piece, more, hrest⟩ := List.exists_cons_of_ne_nil (splitAt_ne_nil mark rest)
      rw [hrest] at ih
      by_cases hp : p c = true <;> simp [splitAt, hc, hp, hrest, ih]

/-! ### Line ends -/

theorem not_mem_unifyLineEnds (text : Text) : '\r' ∉ unifyLineEnds text := by
  induction text using unifyLineEnds.induct with
  | case1 => simp [unifyLineEnds]
  | case2 rest ih => simp [unifyLineEnds, ih]
  | case3 c rest hcrlf ih =>
    rw [unifyLineEnds.eq_3 c rest hcrlf]
    by_cases hc : c = '\r'
    · simp [hc, ih]
    · simp [hc, Ne.symm hc, ih]

theorem unifyLineEnds_eq_self {text : Text} (h : '\r' ∉ text) : unifyLineEnds text = text := by
  induction text using unifyLineEnds.induct with
  | case1 => rfl
  | case2 rest ih => simp at h
  | case3 c rest hcrlf ih =>
    obtain ⟨hc, hrest⟩ := not_or.mp (mt List.mem_cons.mpr h)
    rw [unifyLineEnds.eq_3 c rest hcrlf, if_neg (Ne.symm hc), ih hrest]

/-- The lines of a text whose line ends are unified hold none of them. -/
theorem no_break_of_mem_lines {text line : Text} (hline : line ∈ lines (unifyLineEnds text)) :
    ∀ c ∈ line, c ∉ ['\n', '\r'] := by
  intro c hc
  obtain ⟨hmem, hnewline⟩ := mem_of_mem_lines hline hc
  have hreturn : c ≠ '\r' := ne_of_mem_of_not_mem hmem (not_mem_unifyLineEnds text)
  simp [hnewline, hreturn]

/-! ### Search -/

theorem startsWith_iff (text pattern : Text) : startsWith text pattern = true ↔ pattern <+: text :=
  List.isPrefixOf_iff_prefix

theorem dropStart?_eq_some_iff (text pattern rest : Text) :
    dropStart? text pattern = some rest ↔ text = pattern ++ rest := by
  induction pattern generalizing text with
  | nil => simp [dropStart?]
  | cons p pattern ih =>
    cases text with
    | nil => simp [dropStart?]
    | cons c text =>
      rw [dropStart?]
      split_ifs with hc
      · rw [ih, hc, List.cons_append, List.cons.injEq, and_iff_right rfl]
      · simp [Ne.symm hc]

theorem contains_iff (text pattern : Text) : contains text pattern = true ↔ pattern <:+: text := by
  induction text with
  | nil => simp [contains, List.isPrefixOf_iff_prefix]
  | cons c rest ih =>
    rw [contains, Bool.or_eq_true, List.isPrefixOf_iff_prefix, ih, List.infix_cons_iff]

theorem isPrefix_of_append_cons {pattern first second : Text} {separator : Char}
    (hpattern : separator ∉ pattern) (h : pattern <+: first ++ separator :: second) :
    pattern <+: first := by
  rcases List.prefix_or_prefix_of_prefix h (List.prefix_append first (separator :: second)) with
    hshort | ⟨rest, rfl⟩
  · exact hshort
  · -- What reaches beyond the first text begins with the separator.
    rw [List.prefix_append_right_inj, List.prefix_cons_iff] at h
    rcases h with rfl | ⟨more, rfl, -⟩
    · exact (List.append_nil first).symm ▸ List.prefix_rfl
    · exact absurd (List.mem_append_right first List.mem_cons_self) hpattern

/-- A text that does not hold the separator stands on one side of it. -/
theorem isInfix_append_cons_iff {pattern first second : Text} {separator : Char}
    (hpattern : separator ∉ pattern) :
    pattern <:+: first ++ separator :: second ↔ pattern <:+: first ∨ pattern <:+: second := by
  constructor
  · intro h
    induction first with
    | nil =>
      rcases List.infix_cons_iff.mp h with hstart | hinside
      · have hempty : pattern <+: [] := isPrefix_of_append_cons hpattern hstart
        exact Or.inl hempty.isInfix
      · exact Or.inr hinside
    | cons c rest ih =>
      rcases List.infix_cons_iff.mp h with hstart | hinside
      · have hfirst : pattern <+: c :: rest := isPrefix_of_append_cons hpattern hstart
        exact Or.inl hfirst.isInfix
      · exact (ih hinside).imp_left fun hrest ↦ List.infix_cons hrest
  · rintro (hfirst | hsecond)
    · exact hfirst.trans (List.prefix_append _ _).isInfix
    · exact hsecond.trans ((List.suffix_cons _ _).trans (List.suffix_append _ _)).isInfix

end StudyGuide.Text
