import Mathlib.Data.List.DropRight
import StudyGuide.Proofs.Text.Lines
import StudyGuide.Text.Casing

/-!
What a change of case leaves in its place. Upper case may make several characters of one, but it
neither moves nor makes a colon or a blank: such a character is its own upper case, and it is the
upper case of nothing else (`mem_upperChar_iff`). So a text can be cut at its colons and trimmed
before it is put into upper case as well as after (`uppercase_takeWhile`, `uppercase_trimEnd`).

Lower case looks around only at a sigma. Once the two small sigmas are taken for one, it works
character by character (`map_evenSigma_lowercase`), and a text without sigmas stands in the lower
case of a text exactly when it stands in the evened one (`isInfix_lowercase_iff`).
-/

set_option autoImplicit false
set_option relaxedAutoImplicit false

namespace StudyGuide.Text

open Casing

/-! ### Separators -/

/-- The colon and the blanks. -/
def separatorRanges : List CodeRange := ⟨0x3A, 0x3A⟩ :: blankRanges

def isSeparator (c : Char) : Bool := CodeRange.covers separatorRanges c

theorem isSeparator_colon : isSeparator ':' = true := by decide

theorem isSeparator_of_isBlank {c : Char} (hc : isBlank c = true) : isSeparator c = true := by
  obtain ⟨range, hrange, hcode⟩ := (CodeRange.covers_iff ..).mp hc
  exact (CodeRange.covers_iff ..).mpr ⟨range, List.mem_cons_of_mem _ hrange, hcode⟩

theorem ne_colon_of_not_isSeparator {c : Char} (hc : isSeparator c = false) : c ≠ ':' := by
  rintro rfl
  rw [isSeparator_colon] at hc
  contradiction

theorem isBlank_eq_false_of_not_isSeparator {c : Char} (hc : isSeparator c = false) :
    isBlank c = false := by
  by_contra hblank
  rw [isSeparator_of_isBlank (eq_true_of_ne_false hblank)] at hc
  contradiction

/-! ### Characters that a change of case leaves alone -/

/-- A code that is no character stands for NUL. -/
theorem toNat_ofNat_cases (code : Nat) :
    (Char.ofNat code).toNat = code ∨ (Char.ofNat code).toNat = 0 := by
  by_cases hvalid : code.isValidChar
  · exact Or.inl (congrArg Char.toNat (dif_pos hvalid))
  · exact Or.inr (congrArg Char.toNat (dif_neg hvalid))

theorem Casing.Shift.covers_iff (row : Shift) (code : Nat) :
    row.covers code = true ↔
      row.first ≤ code ∧ code ≤ row.last ∧ (code - row.first) % row.step = 0 := by
  simp [Shift.covers, and_assoc]

/-- A change of case, by a function on ASCII and by tables beyond it, in which no character of the
ranges changes or comes of another. No expansion is empty, so nothing vanishes either. -/
structure Casing.Spares (ascii : Char → Char) (expansions : List (Nat × List Nat))
    (shifts : List Shift) (ranges : List CodeRange) : Prop where
  pos : ∀ range ∈ ranges, 0 < range.first
  ascii : ∀ code < 128,
    CodeRange.covers ranges (Char.ofNat code) = true ∨
        CodeRange.covers ranges (ascii (Char.ofNat code)) = true →
      ascii (Char.ofNat code) = Char.ofNat code
  shift : ∀ row ∈ shifts, ∀ range ∈ ranges,
    (row.last < range.first ∨ range.last < row.first) ∧
      ((row.last : Int) + row.shift < range.first ∨ (range.last : Int) < row.first + row.shift)
  expansion : ∀ entry ∈ expansions,
    CodeRange.covers ranges (Char.ofNat entry.1) = false ∧ entry.2 ≠ [] ∧
      ∀ code ∈ entry.2, CodeRange.covers ranges (Char.ofNat code) = false

namespace Casing.Spares

variable {ascii : Char → Char} {expansions : List (Nat × List Nat)} {shifts : List Shift}
  {ranges : List CodeRange}

theorem covers_shift_eq_false (h : Spares ascii expansions shifts ranges) {row : Shift}
    (hrow : row ∈ shifts) {c : Char} (hc : CodeRange.covers ranges c = true) :
    row.covers c.toNat = false := by
  obtain ⟨range, hrange, hfirst, hlast⟩ := (CodeRange.covers_iff ..).mp hc
  obtain ⟨hstart, -⟩ := h.shift row hrow range hrange
  rw [Bool.eq_false_iff, ne_eq, row.covers_iff]
  omega

theorem covers_target_eq_false (h : Spares ascii expansions shifts ranges) {row : Shift}
    (hrow : row ∈ shifts) {code : Nat} (hcode : row.covers code = true) :
    CodeRange.covers ranges (row.target code) = false := by
  obtain ⟨hfirst, hlast, -⟩ := (row.covers_iff code).mp hcode
  by_contra hcovered
  obtain ⟨range, hrange, hlower, hupper⟩ :=
    (CodeRange.covers_iff ..).mp (eq_true_of_ne_false hcovered)
  obtain ⟨-, hend⟩ := h.shift row hrow range hrange
  have hpos := h.pos range hrange
  rw [Shift.target] at hlower hupper
  rcases toNat_ofNat_cases ((code : Int) + row.shift).toNat with hcode | hnul
  · omega
  · omega

theorem mapped_eq_self (h : Spares ascii expansions shifts ranges) {c : Char}
    (hc : CodeRange.covers ranges c = true) : mapped expansions shifts c = [c] := by
  have hexpansion : expansions.find? (·.1 == c.toNat) = none := by
    refine List.find?_eq_none.mpr fun entry hentry hcode ↦ ?_
    have hstart := (h.expansion entry hentry).1
    rw [beq_iff_eq.mp hcode, Char.ofNat_toNat, hc] at hstart
    contradiction
  have hshift : shifts.find? (·.covers c.toNat) = none :=
    List.find?_eq_none.mpr fun row hrow ↦ by simp [h.covers_shift_eq_false hrow hc]
  rw [mapped, hexpansion]
  dsimp only
  rw [hshift]

theorem eq_of_mem_mapped (h : Spares ascii expansions shifts ranges) {c d : Char}
    (hd : CodeRange.covers ranges d = true) (hmem : d ∈ mapped expansions shifts c) : c = d := by
  unfold mapped at hmem
  split at hmem
  · rename_i entry code codes hfind
    obtain ⟨code', hcode', rfl⟩ := List.mem_map.mp hmem
    have havoid := h.expansion _ (List.mem_of_find?_eq_some hfind)
    rw [havoid.2.2 code' hcode'] at hd
    contradiction
  · split at hmem
    · rename_i row hfind
      have hcovers : row.covers c.toNat = true := by simpa using List.find?_some hfind
      have hrow := List.mem_of_find?_eq_some hfind
      rw [List.mem_singleton.mp hmem, h.covers_target_eq_false hrow hcovers] at hd
      contradiction
    · exact (List.mem_singleton.mp hmem).symm

theorem mapped_ne_nil (h : Spares ascii expansions shifts ranges) (c : Char) :
    mapped expansions shifts c ≠ [] := by
  unfold mapped
  split
  · rename_i hfind
    have havoid := h.expansion _ (List.mem_of_find?_eq_some hfind)
    simpa using havoid.2.1
  · split <;> exact List.cons_ne_nil _ _

/-! Both parts together, as each of the two cases is put together from them. -/

theorem ne_nil (h : Spares ascii expansions shifts ranges) (c : Char) :
    (if c.toNat < 128 then [ascii c] else mapped expansions shifts c) ≠ [] := by
  split_ifs with hascii
  · exact List.cons_ne_nil _ _
  · exact h.mapped_ne_nil c

theorem eq_self (h : Spares ascii expansions shifts ranges) {c : Char}
    (hc : CodeRange.covers ranges c = true) :
    (if c.toNat < 128 then [ascii c] else mapped expansions shifts c) = [c] := by
  split_ifs with hascii
  · have hsame := h.ascii c.toNat hascii
    rw [Char.ofNat_toNat] at hsame
    rw [hsame (Or.inl hc)]
  · exact h.mapped_eq_self hc

/-- A spared character comes of itself and of nothing else. -/
theorem mem_iff (h : Spares ascii expansions shifts ranges) {c d : Char}
    (hd : CodeRange.covers ranges d = true) :
    d ∈ (if c.toNat < 128 then [ascii c] else mapped expansions shifts c) ↔ c = d := by
  constructor
  · intro hmem
    split_ifs at hmem with hascii
    · have hsame := h.ascii c.toNat hascii
      rw [Char.ofNat_toNat] at hsame
      rw [List.mem_singleton] at hmem
      rw [hmem] at hd ⊢
      exact (hsame (Or.inr hd)).symm
    · exact h.eq_of_mem_mapped hd hmem
  · rintro rfl
    rw [h.eq_self hd]
    exact List.mem_singleton_self c

end Casing.Spares

/-! ### Upper case -/

theorem upper_spares_separators :
    Spares Char.toUpper upperExpansions upperShifts separatorRanges where
  pos := by decide
  ascii := by decide +kernel
  shift := by decide +kernel
  expansion := by decide +kernel

theorem upperChar_ne_nil (c : Char) : upperChar c ≠ [] := upper_spares_separators.ne_nil c

theorem upperChar_of_isSeparator {c : Char} (hc : isSeparator c = true) : upperChar c = [c] :=
  upper_spares_separators.eq_self hc

/-- A separator is the upper case of itself and of nothing else. -/
theorem mem_upperChar_iff {c d : Char} (hd : isSeparator d = true) : d ∈ upperChar c ↔ c = d :=
  upper_spares_separators.mem_iff hd

@[simp] theorem uppercase_nil : uppercase [] = [] := rfl

theorem uppercase_cons (c : Char) (rest : Text) :
    uppercase (c :: rest) = upperChar c ++ uppercase rest := rfl

@[simp] theorem uppercase_append (first second : Text) :
    uppercase (first ++ second) = uppercase first ++ uppercase second :=
  List.flatMap_append

section Classes

/-! A class of separators is found in the upper case of a text where it is found in the text. -/

variable {p : Char → Bool} (hp : ∀ c, p c = true → isSeparator c = true)

include hp

theorem eq_false_of_mem_upperChar {c d : Char} (hc : p c = false) (hd : d ∈ upperChar c) :
    p d = false := by
  by_contra hpd
  have hpd : p d = true := eq_true_of_ne_false hpd
  rw [(mem_upperChar_iff (hp d hpd)).mp hd, hpd] at hc
  contradiction

/-- The text before the first separator, in upper case. -/
theorem uppercase_takeWhile (text : Text) :
    (uppercase text).takeWhile (fun c ↦ !p c) = uppercase (text.takeWhile fun c ↦ !p c) := by
  induction text with
  | nil => rfl
  | cons c rest ih =>
    rw [uppercase_cons]
    by_cases hc : p c = true
    · rw [upperChar_of_isSeparator (hp c hc)]
      simp [hc]
    · have hc : p c = false := eq_false_of_ne_true hc
      rw [List.takeWhile_append_of_pos fun d hd ↦ by simp [eq_false_of_mem_upperChar hp hc hd], ih]
      simp [hc, uppercase_cons]

/-- The text without the separators at its end, in upper case. -/
theorem uppercase_rdropWhile (text : Text) :
    (uppercase text).rdropWhile p = uppercase (text.rdropWhile p) := by
  induction text using List.reverseRecOn with
  | nil => rfl
  | append_singleton rest c ih =>
    have hsingle : uppercase [c] = upperChar c := List.append_nil _
    rw [uppercase_append, hsingle]
    by_cases hc : p c = true
    · rw [upperChar_of_isSeparator (hp c hc), List.rdropWhile_concat_pos _ _ _ hc,
        List.rdropWhile_concat_pos _ _ _ hc, ih]
    · rw [List.rdropWhile_concat_neg _ _ _ hc, uppercase_append, hsingle,
        List.rdropWhile_eq_self_iff]
      intro hne
      rw [List.getLast_append_of_ne_nil hne (upperChar_ne_nil c)]
      have hlast := eq_false_of_mem_upperChar hp (eq_false_of_ne_true hc)
        (List.getLast_mem (upperChar_ne_nil c))
      rw [hlast]
      exact Bool.false_ne_true

end Classes

theorem uppercase_trimEnd (text : Text) : trimEnd (uppercase text) = uppercase (trimEnd text) := by
  rw [trimEnd_eq_rdropWhile, trimEnd_eq_rdropWhile]
  exact uppercase_rdropWhile (fun _ ↦ isSeparator_of_isBlank) text

/-! ### Lower case -/

/-- The small sigma at the end of a word, taken for the other one. -/
def evenSigma (c : Char) : Char := if c = 'ς' then 'σ' else c

/-- The lower case of a character wherever it stands, with its sigma evened. -/
def evenLowerChar (c : Char) : Text :=
  if c = 'Σ' then ['σ'] else (lowerChar c).map evenSigma

/-- Lower case in which both small sigmas are one. -/
def evenLowercase (text : Text) : Text := text.flatMap evenLowerChar

theorem map_evenSigma_lowerFrom (before text : Text) :
    (lowerFrom before text).map evenSigma = evenLowercase text := by
  induction text generalizing before with
  | nil => rfl
  | cons c rest ih =>
    rw [lowerFrom, List.map_append, ih, evenLowercase, evenLowercase, List.flatMap_cons]
    congr 1
    unfold evenLowerChar
    split_ifs with hsigma hends <;> rfl

theorem map_evenSigma_lowercase (text : Text) :
    (lowercase text).map evenSigma = evenLowercase text :=
  map_evenSigma_lowerFrom [] text

@[simp] theorem evenLowercase_append (first second : Text) :
    evenLowercase (first ++ second) = evenLowercase first ++ evenLowercase second :=
  List.flatMap_append

theorem evenSigma_eq_self {c : Char} (h : evenSigma c ≠ 'σ') : evenSigma c = c := by
  unfold evenSigma at h ⊢
  split_ifs with hfinal
  · exact absurd (if_pos hfinal) h
  · rfl

theorem map_evenSigma_eq_self {text : Text} (h : 'σ' ∉ text.map evenSigma) :
    text.map evenSigma = text := by
  calc text.map evenSigma
      = text.map id := List.map_congr_left fun c hc ↦
          evenSigma_eq_self (ne_of_mem_of_not_mem (List.mem_map_of_mem hc) h)
    _ = text := List.map_id text

/-- Whether a text without small sigmas stands in a lower case does not hang on which small sigma
is written where. -/
theorem isInfix_lowercase_iff {pattern : Text} (hpattern : ∀ c ∈ pattern, c ∉ ['σ', 'ς'])
    (text : Text) : pattern <:+: lowercase text ↔ pattern <:+: evenLowercase text := by
  have hmap : pattern.map evenSigma = pattern :=
    map_evenSigma_eq_self fun hc ↦ by
      obtain ⟨c, hmem, hsigma⟩ := List.mem_map.mp hc
      have hnone := hpattern c hmem
      unfold evenSigma at hsigma
      split_ifs at hsigma with hfinal
      · exact hnone (by simp [hfinal])
      · exact hnone (by simp [hsigma])
  rw [← map_evenSigma_lowercase, List.infix_map_iff]
  constructor
  · intro h
    exact ⟨pattern, h, hmap.symm⟩
  · rintro ⟨found, hfound, rfl⟩
    have hnone : 'σ' ∉ found.map evenSigma := fun hc ↦ hpattern 'σ' hc List.mem_cons_self
    rwa [map_evenSigma_eq_self hnone]

end StudyGuide.Text
