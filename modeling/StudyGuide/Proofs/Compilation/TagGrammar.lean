import Mathlib.Data.Bool.AllAny
import StudyGuide.Proofs.Text.Casing
import StudyGuide.Tag

/-!
The grammar of tagged lines, told on the line itself. A keyword is sought in the upper case of a
line, which may be longer than the line; still it is found exactly when the part of the line
before its first colon, without blanks at the end, has the keyword for its upper case
(`opens_uppercase_iff`). That part has one upper case and no two keywords are equal, so a line has
at most one tag whatever the order of the keywords, and `classify_iff_grammar` says which block
each line stands for.
-/

set_option autoImplicit false
set_option relaxedAutoImplicit false

namespace StudyGuide.Tag

open Text

/-! ### The parts of a line -/

/-- What stands before the first colon, without the blanks at its end. -/
def opening (line : Text) : Text := trimEnd (line.takeWhile (· ≠ ':'))

/-- What stands after the first colon. -/
def remainder (line : Text) : Text := (line.dropWhile (· ≠ ':')).drop 1

/-- The text of a tagged line: what follows the colon, or all of the line if that is blank. -/
def taggedText (line : Text) : Text :=
  if isBlankText (remainder line) then line else trim (remainder line)

theorem takeWhile_ne_colon_uppercase (line : Text) :
    (uppercase line).takeWhile (· ≠ ':') = uppercase (line.takeWhile (· ≠ ':')) := by
  have hseparator (c : Char) (hc : decide (c = ':') = true) : isSeparator c = true := by
    rw [of_decide_eq_true hc]
    exact isSeparator_colon
  simpa using uppercase_takeWhile hseparator line

theorem opening_uppercase (line : Text) : opening (uppercase line) = uppercase (opening line) := by
  rw [opening, takeWhile_ne_colon_uppercase, uppercase_trimEnd, opening]

theorem splitFirst_colon (line : Text) :
    splitFirst ':' line =
      if ':' ∈ line then some (line.takeWhile (· ≠ ':'), remainder line) else none := by
  induction line with
  | nil => rfl
  | cons c rest ih =>
    rw [splitFirst]
    by_cases hc : c = ':'
    · simp [hc, remainder]
    · rw [if_neg hc, ih]
      by_cases hcolon : ':' ∈ rest <;> simp [hcolon, hc, Ne.symm hc, remainder]

theorem remainder_eq_nil {line : Text} (h : ':' ∉ line) : remainder line = [] := by
  have hdrop : line.dropWhile (· ≠ ':') = [] :=
    List.dropWhile_eq_nil_iff.mpr fun c hc ↦ decide_eq_true (ne_of_mem_of_not_mem hc h)
  rw [remainder, hdrop, List.drop_nil]

theorem payload_eq_taggedText (line : Text) : payload line = taggedText line := by
  unfold payload taggedText
  rw [splitFirst_colon]
  by_cases hcolon : ':' ∈ line
  · rw [if_pos hcolon]
    exact if_congr (trim_eq_nil_iff _) rfl rfl
  · rw [if_neg hcolon, remainder_eq_nil hcolon]
    rfl

theorem taggedText_spec {line : Text} (htrimmed : IsTrimmed line) (hne : line ≠ []) :
    taggedText line ≠ [] ∧ IsTrimmed (taggedText line) := by
  unfold taggedText
  split_ifs with hblank
  · exact ⟨hne, htrimmed⟩
  · exact ⟨mt (trim_eq_nil_iff _).mp hblank, isTrimmed_trim _⟩

/-! ### Keywords -/

theorem head?_dropWhile_ne_colon (line : Text) :
    ∀ c ∈ (line.dropWhile (· ≠ ':')).head?, c = ':' := by
  intro c hc
  have hfirst := List.head?_dropWhile_not (fun c ↦ decide (c ≠ ':')) line
  rw [Option.mem_def.mp hc] at hfirst
  simpa using hfirst

/-- After a keyword that opens a line there is nothing or, after blanks, a colon. -/
theorem opens_iff_exists (keyword line : Text) :
    opens keyword line = true ↔
      ∃ rest, line = keyword ++ rest ∧ ∀ c ∈ (trimStart rest).head?, c = ':' := by
  unfold opens
  cases hrest : dropStart? line keyword with
  | none =>
    refine iff_of_false Bool.false_ne_true ?_
    rintro ⟨rest, hline, -⟩
    rw [(dropStart?_eq_some_iff line keyword rest).mpr hline] at hrest
    contradiction
  | some rest =>
    have hline := (dropStart?_eq_some_iff line keyword rest).mp hrest
    have hunique (other : Text) : line = keyword ++ other ↔ other = rest := by
      rw [hline, List.append_cancel_left_eq, eq_comm]
    simp only [hunique, exists_eq_left]
    cases htrim : trimStart rest with
    | nil => simp
    | cons c more => simp

/-- Between the opening of a line and its first colon there are blanks only. -/
theorem exists_eq_opening_append (line : Text) :
    ∃ blanks, (∀ c ∈ blanks, isBlank c = true) ∧
      line = opening line ++ (blanks ++ line.dropWhile (· ≠ ':')) := by
  refine ⟨(line.takeWhile (· ≠ ':')).rtakeWhile isBlank,
    fun c hc ↦ List.mem_rtakeWhile_imp hc, ?_⟩
  have hword : opening line ++ (line.takeWhile (· ≠ ':')).rtakeWhile isBlank =
      line.takeWhile (· ≠ ':') := List.rdropWhile_append_rtakeWhile
  rw [← List.append_assoc, hword]
  exact List.takeWhile_append_dropWhile.symm

/-- A word without separators is the opening of a line in which nothing or a colon comes next. -/
theorem opening_append {word rest : Text} (hword : ∀ c ∈ word, isSeparator c = false)
    (hrest : ∀ c ∈ (trimStart rest).head?, c = ':') : opening (word ++ rest) = word := by
  have hblank : ∀ c ∈ rest.takeWhile isBlank, isBlank c = true :=
    fun c hc ↦ List.mem_takeWhile_imp hc
  have hno_colon : ∀ c ∈ word ++ rest.takeWhile isBlank, decide (c ≠ ':') = true := by
    intro c hc
    refine decide_eq_true ?_
    rcases List.mem_append.mp hc with hmem | hmem
    · exact ne_colon_of_not_isSeparator (hword c hmem)
    · rintro rfl
      exact absurd (hblank _ hmem) (by decide)
  have hcut : (trimStart rest).takeWhile (· ≠ ':') = [] := by
    cases hstart : trimStart rest with
    | nil => rfl
    | cons c more =>
      rw [hstart] at hrest
      simp [hrest c rfl]
  have hsplit : rest.takeWhile isBlank ++ trimStart rest = rest := List.takeWhile_append_dropWhile
  calc opening (word ++ rest)
      = trimEnd ((word ++ rest.takeWhile isBlank ++ trimStart rest).takeWhile (· ≠ ':')) := by
        rw [List.append_assoc, hsplit, opening]
    _ = trimEnd (word ++ rest.takeWhile isBlank) := by
        rw [List.takeWhile_append_of_pos hno_colon, hcut, List.append_nil]
    _ = trimEnd word := trimEnd_append_of_blank hblank
    _ = word := trimEnd_eq_self fun c hc ↦
        isBlank_eq_false_of_not_isSeparator (hword c (List.mem_of_mem_getLast? hc))

/-- A word without separators opens a line when it is the opening of the line. -/
theorem opens_iff {keyword : Text} (hkeyword : ∀ c ∈ keyword, isSeparator c = false)
    (line : Text) : opens keyword line = true ↔ opening line = keyword := by
  rw [opens_iff_exists]
  constructor
  · rintro ⟨rest, rfl, hrest⟩
    exact opening_append hkeyword hrest
  · rintro rfl
    obtain ⟨blanks, hblank, hline⟩ := exists_eq_opening_append line
    refine ⟨_, hline, ?_⟩
    have hcolon := head?_dropWhile_ne_colon line
    have hstart : trimStart (blanks ++ line.dropWhile (· ≠ ':')) = line.dropWhile (· ≠ ':') := by
      rw [trimStart, List.dropWhile_append_of_pos hblank]
      exact trimStart_eq_self fun c hc ↦ by
        rw [hcolon c hc]
        decide
    rwa [hstart]

/-- The words that tag a line, with the kinds of block that they stand for. -/
inductive IsKeyword : Text → BlockKind → Prop
  | heading : IsKeyword "SECCIÓN" .heading
  | context : IsKeyword "CONTEXTO" .contextNote
  | analogy : IsKeyword "ANALOGÍA" .analogyNote
  | question : IsKeyword "PREGUNTA" .challengeQuestion
  | challenge : IsKeyword "RETO" .challengeQuestion
  | note : IsKeyword "NOTA" .warning

theorem mem_keywords_iff (word : Text) (kind : BlockKind) :
    (word, kind) ∈ keywords ↔ IsKeyword word kind := by
  constructor
  · intro hmem
    simp only [keywords, List.mem_cons, Prod.mk.injEq, List.not_mem_nil, or_false] at hmem
    obtain ⟨rfl, rfl⟩ | ⟨rfl, rfl⟩ | ⟨rfl, rfl⟩ | ⟨rfl, rfl⟩ | ⟨rfl, rfl⟩ | ⟨rfl, rfl⟩ := hmem
    · exact .heading
    · exact .context
    · exact .analogy
    · exact .question
    · exact .challenge
    · exact .note
  · rintro (_ | _ | _ | _ | _ | _) <;> decide

theorem forall_keywords_ne_iff (word : Text) :
    (∀ entry ∈ keywords, word ≠ entry.1) ↔ ∀ kind, ¬IsKeyword word kind := by
  constructor
  · intro hnone kind hword
    exact hnone (word, kind) ((mem_keywords_iff word kind).mpr hword) rfl
  · rintro hnone ⟨keyword, kind⟩ hmem rfl
    exact hnone kind ((mem_keywords_iff _ kind).mp hmem)

theorem isSeparator_keyword : ∀ entry ∈ keywords, ∀ c ∈ entry.1, isSeparator c = false := by
  -- Decided over the keywords: as it stands the statement ranges over all characters.
  refine fun entry hentry ↦ List.all_iff_forall_prop.mp ?_
  revert entry
  decide

theorem eq_of_keyword_eq : ∀ first ∈ keywords, ∀ second ∈ keywords,
    first.1 = second.1 → first = second := by
  decide

theorem opens_uppercase_iff {entry : Text × BlockKind} (hentry : entry ∈ keywords) (line : Text) :
    opens entry.1 (uppercase line) = true ↔ uppercase (opening line) = entry.1 := by
  rw [opens_iff (isSeparator_keyword entry hentry), opening_uppercase]

theorem mem_keywords_of_kind? {line : Text} {kind : BlockKind} (h : kind? line = some kind) :
    (uppercase (opening line), kind) ∈ keywords := by
  obtain ⟨⟨keyword, kind⟩, hfind, rfl⟩ := Option.map_eq_some_iff.mp h
  have hmem := List.mem_of_find?_eq_some hfind
  have hopens : opens keyword (uppercase line) = true := by simpa using List.find?_some hfind
  rwa [(opens_uppercase_iff hmem line).mp hopens]

theorem kind?_eq_none_iff (line : Text) :
    kind? line = none ↔ ∀ entry ∈ keywords, uppercase (opening line) ≠ entry.1 := by
  unfold kind?
  rw [Option.map_eq_none_iff, List.find?_eq_none]
  exact forall₂_congr fun entry hentry ↦ not_congr (opens_uppercase_iff hentry line)

theorem kind?_eq_some_iff (line : Text) (kind : BlockKind) :
    kind? line = some kind ↔ (uppercase (opening line), kind) ∈ keywords := by
  constructor
  · exact mem_keywords_of_kind?
  · intro hmem
    have hsome : kind? line ≠ none := fun hnone ↦ (kind?_eq_none_iff line).mp hnone _ hmem rfl
    obtain ⟨found, hfound⟩ := Option.ne_none_iff_exists'.mp hsome
    -- The keyword that is found first is the same one, and a keyword has one kind.
    have hentry := eq_of_keyword_eq _ (mem_keywords_of_kind? hfound) _ hmem rfl
    rw [hfound, (Prod.mk.inj hentry).2]

/-! ### Lines and blocks -/

theorem classify_eq_none_iff (line : Text) : classify line = none ↔ trim line = [] := by
  unfold classify
  dsimp only
  split_ifs with hblank
  · exact iff_of_true rfl hblank
  · refine iff_of_false ?_ hblank
    split <;> exact Option.some_ne_none _

theorem classify_eq_some_iff (line : Text) (block : Block) :
    classify line = some block ↔ trim line ≠ [] ∧
      (IsKeyword (uppercase (opening (trim line))) block.kind ∧
          block.text = taggedText (trim line) ∨
        (∀ kind, ¬IsKeyword (uppercase (opening (trim line))) kind) ∧
          block = ⟨.paragraph, trim line⟩) := by
  rw [← mem_keywords_iff, ← kind?_eq_some_iff, ← forall_keywords_ne_iff, ← kind?_eq_none_iff]
  unfold classify
  dsimp only
  split_ifs with hblank
  · exact iff_of_false not_false fun h ↦ h.1 hblank
  · obtain ⟨kind, text⟩ := block
    rw [and_iff_right hblank]
    cases hkind : kind? (trim line) with
    | none => simp [eq_comm]
    | some found => simp [payload_eq_taggedText, eq_comm]

/-- The text of a block is trimmed and never empty. -/
theorem text_of_classify {line : Text} {block : Block} (h : classify line = some block) :
    block.text ≠ [] ∧ IsTrimmed block.text := by
  obtain ⟨hne, ⟨-, htext⟩ | ⟨-, rfl⟩⟩ := (classify_eq_some_iff line block).mp h
  · rw [htext]
    exact taggedText_spec (isTrimmed_trim line) hne
  · exact ⟨hne, isTrimmed_trim line⟩

/-- Exactly the blank lines stand for no block. Any other line stands for the block of the tag
whose keyword its opening is, in any case, with the text after the colon, and for a paragraph if
its opening is no keyword. The text of a block is trimmed and never empty. -/
theorem classify_iff_grammar (line : Text) :
    (classify line = none ↔ trim line = []) ∧
    (∀ block, classify line = some block ↔ trim line ≠ [] ∧
      (IsKeyword (uppercase (opening (trim line))) block.kind ∧
          block.text = taggedText (trim line) ∨
        (∀ kind, ¬IsKeyword (uppercase (opening (trim line))) kind) ∧
          block = ⟨.paragraph, trim line⟩)) ∧
    ∀ block, classify line = some block → block.text ≠ [] ∧ IsTrimmed block.text :=
  ⟨classify_eq_none_iff line, classify_eq_some_iff line, fun _ ↦ text_of_classify⟩

end StudyGuide.Tag
