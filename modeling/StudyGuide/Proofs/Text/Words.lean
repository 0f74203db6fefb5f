import StudyGuide.Proofs.Text.Ink
import StudyGuide.Proofs.Text.Lines

/-!
Words are the maximal runs of characters that are not blank. A text is therefore read word by
word: what stands before a blank and what stands after it are cut into words each on its own
(`words_append_blank`), and a word by itself is its only word (`IsWord.words_eq`).
-/

set_option autoImplicit false
set_option relaxedAutoImplicit false

namespace StudyGuide.Text

/-- A word: characters, none of them blank. -/
structure IsWord (word : Text) : Prop where
  ne_nil : word ≠ []
  no_blank : ∀ c ∈ word, isBlank c = false

theorem isWord_reverse {text : Text} (hne : text ≠ []) (htext : ∀ c ∈ text, isBlank c = false) :
    IsWord text.reverse :=
  ⟨by simpa using hne, fun c hc ↦ htext c (List.mem_reverse.mp hc)⟩

theorem isWord_of_mem_wordsFrom {partialWord text word : Text}
    (hpartial : ∀ c ∈ partialWord, isBlank c = false)
    (hword : word ∈ wordsFrom partialWord text) : IsWord word := by
  induction text generalizing partialWord with
  | nil =>
    by_cases hnil : partialWord = []
    · simp [wordsFrom, hnil] at hword
    · simp only [wordsFrom, hnil, ↓reduceIte, List.mem_singleton] at hword
      rw [hword]
      exact isWord_reverse hnil hpartial
  | cons c rest ih =>
    by_cases hc : isBlank c = true
    · by_cases hnil : partialWord = []
      · simp only [wordsFrom, hc, hnil, ↓reduceIte] at hword
        exact ih (by simp) hword
      · simp only [wordsFrom, hc, hnil, ↓reduceIte, List.mem_cons] at hword
        rcases hword with rfl | hrest
        · exact isWord_reverse hnil hpartial
        · exact ih (by simp) hrest
    · simp only [wordsFrom, hc, Bool.false_eq_true, ↓reduceIte] at hword
      exact ih (List.forall_mem_cons.mpr ⟨by simpa using hc, hpartial⟩) hword

theorem isWord_of_mem_words {text word : Text} (hword : word ∈ words text) : IsWord word :=
  isWord_of_mem_wordsFrom (by simp) hword

theorem wordsFrom_append_blank {c : Char} (hc : isBlank c = true)
    (partialWord first second : Text) :
    wordsFrom partialWord (first ++ c :: second) =
      wordsFrom partialWord first ++ words second := by
  induction first generalizing partialWord with
  | nil => by_cases hnil : partialWord = [] <;> simp [wordsFrom, words, hc, hnil]
  | cons d rest ih =>
    by_cases hd : isBlank d = true
    · by_cases hnil : partialWord = [] <;> simp [wordsFrom, hd, hnil, ih]
    · simp [wordsFrom, hd, ih]

/-- A blank parts the words before it from the words after it. -/
theorem words_append_blank {c : Char} (hc : isBlank c = true) (first second : Text) :
    words (first ++ c :: second) = words first ++ words second :=
  wordsFrom_append_blank hc [] first second

theorem wordsFrom_of_no_blank {partialWord text : Text}
    (htext : ∀ c ∈ text, isBlank c = false) (hne : partialWord ≠ [] ∨ text ≠ []) :
    wordsFrom partialWord text = [partialWord.reverse ++ text] := by
  induction text generalizing partialWord with
  | nil => simpa [wordsFrom] using hne
  | cons c rest ih =>
    have hc := htext c List.mem_cons_self
    simp [wordsFrom, hc, ih fun d hd ↦ htext d (List.mem_cons_of_mem c hd)]

theorem ink_of_no_blank {text : Text} (htext : ∀ c ∈ text, isBlank c = false) : ink text = text :=
  List.filter_eq_self.mpr fun c hc ↦ by simp [htext c hc]

namespace IsWord

variable {word : Text}

theorem ne_space (hword : IsWord word) {c : Char} (hc : c ∈ word) : c ≠ ' ' := by
  rintro rfl
  exact absurd (hword.no_blank ' ' hc) (by decide)

/-- A word is the only word of itself. -/
theorem words_eq (hword : IsWord word) : words word = [word] :=
  wordsFrom_of_no_blank hword.no_blank (Or.inr hword.ne_nil)

theorem isTrimmed (hword : IsWord word) : IsTrimmed word :=
  ⟨fun c hc ↦ hword.no_blank c (List.mem_of_head? hc),
    fun c hc ↦ hword.no_blank c (List.mem_of_getLast? hc)⟩

theorem ink_eq (hword : IsWord word) : ink word = word :=
  ink_of_no_blank hword.no_blank

end IsWord

end StudyGuide.Text
