import Mathlib.Data.Bool.AllAny
import StudyGuide.Proofs.Compilation.Content
import StudyGuide.Proofs.Sanitizer.CleanText
import StudyGuide.Proofs.Text.Sigma

/-!
Which markers work. A marker is to drop every line that holds it, but the two come to be compared
by different ways: the marker is trimmed and put into lower case by itself, while the line first
loses the characters that vanish and is then put into lower case as a whole.

No character that vanishes comes of another in lower case (`lower_spares_vanishing`). A marker
that holds one is therefore found in no cleaned line, and it is as if it were not configured. A
marker with a sigma that looks beyond its ends is found in some lines and not inside all words.
Every other marker drops every line that holds it, whatever surrounds it there
(`drops_every_holder_iff`).
-/

set_option autoImplicit false
set_option relaxedAutoImplicit false

namespace StudyGuide.Sanitizer

open Text Text.Casing

/-! ### Characters that vanish, in lower case -/

instance (text : Text) : Decidable (IsPlain text) := List.decidableBAll _ text

/-- The codes of the markers of emphasis and of the invisible characters. -/
def vanishingRanges : List CodeRange :=
  [⟨0x23, 0x23⟩, ⟨0x2A, 0x2A⟩, ⟨0x5F, 0x5F⟩, ⟨0xAD, 0xAD⟩, ⟨0x200B, 0x200D⟩, ⟨0x2060, 0x2060⟩,
    ⟨0xFEFF, 0xFEFF⟩]

theorem covers_vanishingRanges {c : Char} (h : ¬(isInvisible c = false ∧ isEmphasis c = false)) :
    CodeRange.covers vanishingRanges c = true := by
  have hlisted : ∀ d ∈ ['\u200B', '\uFEFF', '\u00AD', '\u200C', '\u200D', '\u2060', '*', '#', '_'],
      CodeRange.covers vanishingRanges d = true := List.all_iff_forall_prop.mp (by decide)
  refine hlisted c ?_
  by_contra hnone
  refine h ⟨?_, ?_⟩
  · simp only [isInvisible, decide_eq_false_iff_not]
    exact fun hc ↦ hnone (List.mem_append_left ['*', '#', '_'] hc)
  · simp only [isEmphasis, decide_eq_false_iff_not]
    exact fun hc ↦ hnone (List.mem_append_right
      ['\u200B', '\uFEFF', '\u00AD', '\u200C', '\u200D', '\u2060'] hc)

theorem lower_spares_vanishing :
    Spares Char.toLower lowerExpansions lowerShifts vanishingRanges where
  pos := by decide
  ascii := by decide +kernel
  shift := by decide +kernel
  expansion := by decide +kernel

theorem mem_lowerFrom_iff {c : Char} (hc : CodeRange.covers vanishingRanges c = true)
    (before text : Text) : c ∈ lowerFrom before text ↔ c ∈ text := by
  induction text generalizing before with
  | nil => rfl
  | cons d rest ih =>
    rw [lowerFrom, List.mem_append, ih, List.mem_cons]
    refine or_congr_left ?_
    split_ifs with hsigma hends
    · exact iff_of_false (fun hmem ↦ absurd hc (by rw [List.mem_singleton.mp hmem]; decide))
        fun hmem ↦ absurd hc (by rw [hmem, hsigma]; decide)
    · exact iff_of_false (fun hmem ↦ absurd hc (by rw [List.mem_singleton.mp hmem]; decide))
        fun hmem ↦ absurd hc (by rw [hmem, hsigma]; decide)
    · exact (lower_spares_vanishing.mem_iff hc).trans eq_comm

theorem isPlain_lowercase_iff (text : Text) : IsPlain (lowercase text) ↔ IsPlain text := by
  constructor
  · intro h c hc
    by_contra hvanishes
    exact hvanishes (h c ((mem_lowerFrom_iff (covers_vanishingRanges hvanishes) [] text).mpr hc))
  · intro h c hc
    by_contra hvanishes
    exact hvanishes (h c ((mem_lowerFrom_iff (covers_vanishingRanges hvanishes) [] text).mp hc))

theorem lowercase_ne_nil {text : Text} (h : text ≠ []) : lowercase text ≠ [] := by
  obtain ⟨c, rest, rfl⟩ := List.exists_cons_of_ne_nil h
  rw [lowercase, lowerFrom]
  refine List.append_ne_nil_of_left_ne_nil ?_ _
  by_cases hsigma : c = 'Σ'
  · rw [if_pos hsigma]
    exact List.cons_ne_nil _ _
  · rw [if_neg hsigma]
    exact lower_spares_vanishing.ne_nil c

theorem IsPlain.of_isInfix {part text : Text} (h : IsPlain text) (hheld : part <:+: text) :
    IsPlain part := fun c hc ↦ h c (hheld.subset hc)

/-- A plain text stays where it is when the characters around it vanish. -/
theorem isInfix_stripped {part text : Text} (hpart : IsPlain part) (hheld : part <:+: text) :
    part <:+: stripEmphasis (removeInvisible text) := by
  obtain ⟨before, after, rfl⟩ := hheld
  rw [removeInvisible, stripEmphasis, List.filter_append, List.filter_append, List.filter_append,
    List.filter_append]
  have hsame : stripEmphasis (removeInvisible part) = part := stripped_eq_self hpart
  rw [removeInvisible, stripEmphasis] at hsame
  rw [hsame]
  exact ⟨_, _, rfl⟩

/-! ### Lines that are dropped for a marker -/

theorem mem_markers_ofMarkers {markers : List Text} {found : Text} :
    found ∈ (ofMarkers markers).markers ↔
      ∃ marker ∈ markers, lowercase (trim marker) = found ∧ trim marker ≠ [] := by
  rw [ofMarkers, List.mem_filter, List.mem_map, decide_eq_true_eq]
  constructor
  · rintro ⟨⟨marker, hmem, rfl⟩, hne⟩
    refine ⟨marker, hmem, rfl, fun hnil ↦ hne ?_⟩
    rw [hnil]
    rfl
  · rintro ⟨marker, hmem, rfl, hne⟩
    exact ⟨⟨marker, hmem, rfl⟩, lowercase_ne_nil hne⟩

/-- What a line is judged by. -/
theorem sanitizeLine_eq_none_of_marker {sanitizer : Sanitizer} {marker line : Text}
    (hmarker : marker ∈ sanitizer.markers)
    (hheld : marker <:+: lowercase (trim (stripEmphasis (removeInvisible line)))) :
    sanitizer.sanitizeLine line = none := by
  by_contra hkept
  obtain ⟨kept, hkept⟩ := Option.ne_none_iff_exists'.mp hkept
  obtain ⟨rfl, -, -, hpreamble⟩ := (cleanLine_eq_some_iff ..).mp hkept
  exact ((isPreamble_eq_false_iff ..).mp hpreamble).2 marker hmarker hheld

/-- A line that starts with a letter is dropped for a marker only. -/
theorem exists_marker_of_sanitizeLine_letter {sanitizer : Sanitizer} {rest : Text}
    (h : sanitizer.sanitizeLine ('a' :: rest) = none) :
    ∃ marker ∈ sanitizer.markers,
      marker <:+: lowercase (trim ('a' :: stripEmphasis (removeInvisible rest))) := by
  by_contra hnone
  push Not at hnone
  have hletter : stripEmphasis (removeInvisible ('a' :: rest)) =
      'a' :: stripEmphasis (removeInvisible rest) := rfl
  obtain ⟨more, hmore⟩ := exists_trim_cons (c := 'a') (by decide)
    (stripEmphasis (removeInvisible rest))
  have hkept : sanitizer.sanitizeLine ('a' :: rest) = some ('a' :: more) := by
    rw [sanitizeLine, hletter, cleanLine_eq_some_iff]
    refine ⟨hmore, List.cons_ne_nil _ _, rfl, ?_⟩
    rw [isPreamble_eq_false_iff]
    refine ⟨fun c hc ↦ ?_, fun marker hmarker ↦ ?_⟩
    · obtain rfl : 'a' = c := Option.some.inj hc
      decide
    · rw [← hmore]
      exact hnone marker hmarker
  rw [hkept] at h
  exact Option.some_ne_none _ h

/-! ### Markers that work -/

/-- A marker that vanishes in part is found in no cleaned line. -/
theorem sanitizeLine_cons_of_not_isPlain {marker : Text} (h : ¬IsPlain (trim marker))
    (markers : List Text) (line : Text) :
    (ofMarkers (marker :: markers)).sanitizeLine line = (ofMarkers markers).sanitizeLine line := by
  have hpreamble (text : Text) (htext : IsPlain text) :
      (ofMarkers (marker :: markers)).isPreamble text = (ofMarkers markers).isPreamble text := by
    have hnot : contains (lowercase text) (lowercase (trim marker)) = false := by
      rw [Bool.eq_false_iff, ne_eq, contains_iff]
      intro hheld
      exact h ((isPlain_lowercase_iff _).mp
        (((isPlain_lowercase_iff text).mpr htext).of_isInfix hheld))
    have hne : trim marker ≠ [] := fun hnil ↦ h (by rw [hnil]; exact fun c hc ↦ by simp at hc)
    have hmarkers : (ofMarkers (marker :: markers)).markers =
        lowercase (trim marker) :: (ofMarkers markers).markers := by
      rw [ofMarkers, List.map_cons, List.filter_cons_of_pos (by simp [lowercase_ne_nil hne])]
      rfl
    unfold isPreamble
    rw [hmarkers, List.any_cons, hnot, Bool.false_or]
  have hplain : IsPlain (trim (stripEmphasis (removeInvisible line))) :=
    fun c hc ↦ isPlain_stripped line c (mem_of_mem_trim hc)
  rw [sanitizeLine, sanitizeLine, cleanLine, cleanLine, hpreamble _ hplain]

/-- A plain marker with settled sigmas drops every line that holds it. -/
theorem sanitizeLine_eq_none_of_holds {markers : List Text} {marker line : Text}
    (hmem : marker ∈ markers) (hne : trim marker ≠ []) (hplain : IsPlain (trim marker))
    (hsettled : SettlesSigmas (trim marker)) (hheld : trim marker <:+: line) :
    (ofMarkers markers).sanitizeLine line = none := by
  refine sanitizeLine_eq_none_of_marker (mem_markers_ofMarkers.mpr ⟨marker, hmem, rfl, hne⟩) ?_
  have hstripped : trim marker <:+: stripEmphasis (removeInvisible line) :=
    isInfix_stripped hplain hheld
  exact lowercase_isInfix_of_settled hsettled (isInfix_trim (isTrimmed_trim marker) hne hstripped)

/-- A line that holds a marker with a sigma that is not settled, between letters that turn it. -/
theorem exists_holder_of_not_settled {marker : Text} (hne : trim marker ≠ [])
    (hplain : IsPlain (trim marker)) (h : ¬SettlesSigmas (trim marker)) :
    ∃ line, trim marker <:+: line ∧ (ofMarkers [marker]).sanitizeLine line ≠ none := by
  obtain ⟨outer, houter, hnot⟩ := exists_not_isInfix_of_not_settled h
  refine ⟨'a' :: (trim marker ++ outer), ⟨['a'], outer, rfl⟩, fun hnone ↦ hnot ?_⟩
  have hletters : IsPlain outer ∧ ∀ c ∈ outer.getLast?, isBlank c = false := by
    rcases List.mem_pair.mp houter with rfl | rfl
    · exact ⟨fun c hc ↦ absurd hc List.not_mem_nil, fun c hc ↦ by simp at hc⟩
    · exact ⟨fun c hc ↦ by rw [List.mem_singleton.mp hc]; decide, fun c hc ↦ by
        obtain rfl : 'a' = c := Option.some.inj hc
        decide⟩
  have hstripped : stripEmphasis (removeInvisible (trim marker ++ outer)) = trim marker ++ outer :=
    stripped_eq_self fun c hc ↦ (List.mem_append.mp hc).elim (hplain c) (hletters.1 c)
  have htrimmed : IsTrimmed ('a' :: (trim marker ++ outer)) := by
    refine ⟨fun c hc ↦ ?_, fun c hc ↦ ?_⟩
    · obtain rfl : 'a' = c := Option.some.inj hc
      decide
    · rw [List.getLast?_cons_of_ne_nil (List.append_ne_nil_of_left_ne_nil hne outer),
        List.getLast?_append] at hc
      rcases Option.or_eq_some_iff.mp hc with hlast | ⟨-, hlast⟩
      · exact hletters.2 c hlast
      · exact (isTrimmed_trim marker).2 c hlast
  obtain ⟨found, hfound, hheld⟩ := exists_marker_of_sanitizeLine_letter hnone
  obtain ⟨only, honly, rfl, -⟩ := mem_markers_ofMarkers.mp hfound
  obtain rfl := List.mem_singleton.mp honly
  rwa [hstripped, (trim_eq_self_iff _).mpr htrimmed] at hheld

/-- A marker drops every line that holds it, whatever is configured beside it, exactly where no
character of it vanishes and every sigma in it is settled. Then no block of a compilation stems
from such a line. Where a character of it vanishes, it drops no line at all. -/
theorem drops_every_holder_iff (marker : Text) (hne : trim marker ≠ []) :
    ((∀ markers line, marker ∈ markers → trim marker <:+: line →
        (ofMarkers markers).sanitizeLine line = none) ↔
      IsPlain (trim marker) ∧ SettlesSigmas (trim marker)) ∧
    (IsPlain (trim marker) → SettlesSigmas (trim marker) →
      ∀ markers, marker ∈ markers → ∀ fallbackTitle raw author,
        (Compilation.compileWith (ofMarkers markers) fallbackTitle raw author).1.blocks =
          ((Compilation.splitTitle raw).2.filter fun line ↦
            !contains line (trim marker)).filterMap (Compilation.blockOf? (ofMarkers markers))) ∧
    (¬IsPlain (trim marker) → ∀ markers line,
      (ofMarkers (marker :: markers)).sanitizeLine line =
        (ofMarkers markers).sanitizeLine line) := by
  refine ⟨⟨fun hdrops ↦ ?_, ?_⟩, fun hplain hsettled markers hmem fallbackTitle raw author ↦ ?_,
    sanitizeLine_cons_of_not_isPlain⟩
  · have hplain : IsPlain (trim marker) := by
      by_contra hvanishes
      have hnone := hdrops [marker] ('a' :: trim marker) List.mem_cons_self
        (List.infix_cons (List.infix_refl _))
      rw [sanitizeLine_cons_of_not_isPlain hvanishes] at hnone
      obtain ⟨found, hfound, -⟩ := exists_marker_of_sanitizeLine_letter hnone
      exact List.not_mem_nil hfound
    refine ⟨hplain, ?_⟩
    by_contra hsettled
    obtain ⟨line, hheld, hkept⟩ := exists_holder_of_not_settled hne hplain hsettled
    exact hkept (hdrops [marker] line List.mem_cons_self hheld)
  · rintro ⟨hplain, hsettled⟩ markers line hmem hheld
    exact sanitizeLine_eq_none_of_holds hmem hne hplain hsettled hheld
  · have hblocks : (Compilation.compileWith (ofMarkers markers) fallbackTitle raw author).1.blocks =
        (Compilation.splitTitle raw).2.filterMap (Compilation.blockOf? (ofMarkers markers)) := rfl
    rw [hblocks, List.filterMap_filter]
    refine List.filterMap_congr fun line _ ↦ ?_
    by_cases hholds : contains line (trim marker) = true
    · have hheld := (contains_iff ..).mp hholds
      rw [hholds, Compilation.blockOf?,
        sanitizeLine_eq_none_of_holds hmem hne hplain hsettled hheld]
      rfl
    · rw [eq_false_of_ne_true hholds]
      rfl

/-- A sigma at the start of a word has one form, so this marker works inside other words too. -/
theorem sophia_drops_every_holder :
    trim " ΣΟΦΙΑ " ≠ [] ∧
      ∀ markers line, (" ΣΟΦΙΑ " : Text) ∈ markers → trim " ΣΟΦΙΑ " <:+: line →
        (ofMarkers markers).sanitizeLine line = none := by
  have hink : trim " ΣΟΦΙΑ " ≠ [] := by decide
  have hplain : IsPlain (trim " ΣΟΦΙΑ ") := by decide
  have hsettled : SettlesSigmas (trim " ΣΟΦΙΑ ") := by decide +kernel
  exact ⟨hink, (drops_every_holder_iff " ΣΟΦΙΑ " hink).1.mpr ⟨hplain, hsettled⟩⟩

/-- Two markers that spare a line that holds them: the line loses the underscore of the one, and
continues the word that the other ends with its sigma. -/
theorem markers_that_spare_holders :
    (trim "nota_final" <:+: ("Va la nota_final" : Text) ∧
      (ofMarkers ["nota_final"]).sanitizeLine "Va la nota_final" = some "Va la notafinal") ∧
    trim "ΟΔΟΣ" <:+: ("ΟΔΟΣΑ" : Text) ∧
      (ofMarkers ["ΟΔΟΣ"]).sanitizeLine "ΟΔΟΣΑ" = some "ΟΔΟΣΑ" := by
  refine ⟨⟨?_, by decide +kernel⟩, ?_, by decide +kernel⟩ <;>
    exact (contains_iff ..).mp (by decide)

end StudyGuide.Sanitizer
