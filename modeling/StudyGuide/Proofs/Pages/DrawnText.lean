import StudyGuide.Proofs.Pages.PageCount

/-!
What is measured is what is drawn. Characters are replaced one at a time, by characters of the
repertoire only (`Font.isDrawable_of_mem_drawn`), and one of the repertoire is drawn as it is
(`Font.drawn_of_isDrawable`). So a text is left as it is exactly where it is drawable already
(`Font.drawable_eq_self_iff`), and a second replacement finds nothing to do, which is why a text
and what is drawn for it have one width.

A page carries the footer and the runs of its lines, and every one of those has been through the
replacement (`Line.isDrawable_of_mem_runs`).
-/

set_option autoImplicit false
set_option relaxedAutoImplicit false

namespace StudyGuide

open Text

namespace Font

/-- A replacement of characters, one at a time, by those of a repertoire, which are kept. A blank
gives a blank, and any other character gives one that is no blank, or none. -/
structure IsProjection (repertoire : Char → Bool) (replace : Text → Text) : Prop where
  append : ∀ first second, replace (first ++ second) = replace first ++ replace second
  covered : ∀ text, ∀ c ∈ replace text, repertoire c = true
  eq_self_iff : ∀ text, replace text = text ↔ ∀ c ∈ text, repertoire c = true
  idempotent : ∀ text, replace (replace text) = replace text
  blank : ∀ c, isBlank c = true → ∃ d, replace [c] = [d] ∧ isBlank d = true
  ink : ∀ c, isBlank c = false → replace [c] = [] ∨ ∃ d, replace [c] = [d] ∧ isBlank d = false

/-! ### Single characters -/

/-- The signs that are drawn for characters beyond the repertoire. -/
def standIns : Text := ['*', '!', '?', '+', ' ']

theorem drawn_cases (c : Char) :
    drawn c = [] ∨ (isDrawable c = true ∧ drawn c = [c]) ∨ ∃ sign ∈ standIns, drawn c = [sign] := by
  unfold drawn
  split_ifs with _ _ _ _ _ hc
  · exact .inl rfl
  · exact .inr (.inr ⟨'*', by decide, rfl⟩)
  · exact .inr (.inr ⟨'!', by decide, rfl⟩)
  · exact .inr (.inr ⟨'?', by decide, rfl⟩)
  · exact .inr (.inr ⟨'+', by decide, rfl⟩)
  · exact .inr (.inl ⟨hc, rfl⟩)
  · exact .inr (.inr ⟨' ', by decide, rfl⟩)
  · exact .inr (.inr ⟨'?', by decide, rfl⟩)

theorem isDrawable_of_mem_drawn {c d : Char} (hd : d ∈ drawn c) : isDrawable d = true := by
  have hstandIns : standIns.all isDrawable = true := by decide
  rcases drawn_cases c with hnil | ⟨hc, hself⟩ | ⟨sign, hsign, hdrawn⟩
  · exact absurd (hnil ▸ hd) List.not_mem_nil
  · rw [hself, List.mem_singleton] at hd
    exact hd ▸ hc
  · rw [hdrawn, List.mem_singleton] at hd
    exact hd ▸ List.all_eq_true.mp hstandIns sign hsign

/-- The signs that are looked for before the repertoire are none of it. -/
theorem drawn_of_isDrawable {c : Char} (hc : isDrawable c = true) : drawn c = [c] := by
  have hsigns : replacedSigns.any isDrawable = false := by decide
  have hmem : c ∉ replacedSigns := fun hsign ↦ List.any_eq_false.mp hsigns c hsign hc
  rw [drawn_of_not_mem hmem, if_pos hc]

theorem drawable_singleton (c : Char) : drawable [c] = drawn c := by
  rw [drawable, List.flatMap_singleton]

theorem drawable_singleton_of_isBlank {c : Char} (hc : isBlank c = true) :
    ∃ d, drawable [c] = [d] ∧ isBlank d = true := by
  rw [drawable_singleton, drawn_of_isBlank hc]
  split_ifs with hdrawable
  · exact ⟨c, rfl, hc⟩
  · exact ⟨' ', rfl, by decide⟩

theorem drawable_singleton_of_not_isBlank {c : Char} (hc : isBlank c = false) :
    drawable [c] = [] ∨ ∃ d, drawable [c] = [d] ∧ isBlank d = false := by
  rw [drawable_singleton]
  rcases drawn_cases c with hnil | ⟨-, hself⟩ | ⟨sign, -, hsign⟩
  · exact .inl hnil
  · exact .inr ⟨c, hself, hc⟩
  · have hmem : sign ∈ drawn c := hsign ▸ List.mem_singleton_self sign
    exact .inr ⟨sign, hsign, isBlank_eq_false_of_mem_drawn hc hmem⟩

/-! ### Texts -/

theorem isDrawable_of_mem_drawable {text : Text} {c : Char} (hc : c ∈ drawable text) :
    isDrawable c = true := by
  obtain ⟨original, -, hdrawn⟩ := List.mem_flatMap.mp hc
  exact isDrawable_of_mem_drawn hdrawn

theorem drawable_eq_self {text : Text} (htext : ∀ c ∈ text, isDrawable c = true) :
    drawable text = text := by
  induction text with
  | nil => rfl
  | cons c rest ih =>
    obtain ⟨hc, hrest⟩ := List.forall_mem_cons.mp htext
    rw [drawable, List.flatMap_cons, drawn_of_isDrawable hc]
    exact congrArg (c :: ·) (ih hrest)

theorem drawable_eq_self_iff {text : Text} :
    drawable text = text ↔ ∀ c ∈ text, isDrawable c = true :=
  ⟨fun h _ hc ↦ isDrawable_of_mem_drawable (h ▸ hc), drawable_eq_self⟩

theorem drawable_drawable (text : Text) : drawable (drawable text) = drawable text :=
  drawable_eq_self fun _ ↦ isDrawable_of_mem_drawable

theorem isProjection_drawable : IsProjection isDrawable drawable where
  append := drawable_append
  covered := fun _ _ ↦ isDrawable_of_mem_drawable
  eq_self_iff := fun _ ↦ drawable_eq_self_iff
  idempotent := drawable_drawable
  blank := fun _ ↦ drawable_singleton_of_isBlank
  ink := fun _ ↦ drawable_singleton_of_not_isBlank

theorem textWidth_drawable (style : TextStyle) (text : Text) :
    textWidth style (drawable text) = textWidth style text := by
  rw [textWidth, drawable_drawable, textWidth]

end Font

/-! ### Runs -/

open Font

/-- The font can draw the run as it is. -/
def TextRun.IsDrawable (run : TextRun) : Prop := ∀ c ∈ run.text, isDrawable c = true

theorem TextRun.isDrawable_of (text : Text) (style : TextStyle) (x baseline : Length) :
    (TextRun.of text style x baseline).IsDrawable :=
  fun _ ↦ isDrawable_of_mem_drawable

namespace Line

theorem isDrawable_of_mem_spread {style : TextStyle} {gap baseline x : Length} {words : List Text}
    {run : TextRun} (hrun : run ∈ spread style gap baseline x words) : run.IsDrawable := by
  induction words generalizing x with
  | nil => exact absurd hrun List.not_mem_nil
  | cons word rest ih =>
    rcases List.mem_cons.mp hrun with rfl | hrest
    · exact TextRun.isDrawable_of _ _ _ _
    · exact ih hrest

/-- A line is drawn in one run or word by word. -/
theorem isDrawable_of_mem_runs {line : Line} {y : Length} {run : TextRun}
    (hrun : run ∈ line.runs y) : run.IsDrawable := by
  unfold runs stretched at hrun
  dsimp only at hrun
  split_ifs at hrun with hstretch
  · split at hrun
    · exact List.mem_singleton.mp hrun ▸ TextRun.isDrawable_of _ _ _ _
    · exact isDrawable_of_mem_spread hrun
  · exact List.mem_singleton.mp hrun ▸ TextRun.isDrawable_of _ _ _ _

end Line

namespace Flow

variable {footer : TextRun} {lines : List Line} {flow : Flow}

theorem isDrawable_of_mem_pageRuns (hfooter : footer.IsDrawable) {placed : List PlacedLine}
    {run : TextRun} (hrun : run ∈ pageRuns footer placed) : run.IsDrawable := by
  rcases List.mem_cons.mp hrun with rfl | hlines
  · exact hfooter
  · obtain ⟨drawn, -, hdrawn⟩ := List.mem_flatMap.mp hlines
    exact Line.isDrawable_of_mem_runs hdrawn

theorem Holds.exists_runs_eq (h : Holds footer lines flow) {page : Page}
    (hpage : page ∈ flow.pages) : ∃ placed, page.runs = pageRuns footer placed := by
  obtain ⟨earlier, last, hearlier, hlast, -⟩ := h
  rcases List.mem_append.mp hpage with hfinished | hinHand
  · have hruns : page.runs ∈ earlier.map (pageRuns footer) :=
      hearlier ▸ List.mem_map_of_mem hfinished
    obtain ⟨placed, -, hplaced⟩ := List.mem_map.mp hruns
    exact ⟨placed, hplaced.symm⟩
  · rw [List.mem_singleton.mp hinHand]
    exact ⟨last, hlast⟩

end Flow

namespace Layout

theorem isDrawable_of_mem_runs (layout : Layout) {page : Page} (hpage : page ∈ layout.pages)
    {run : TextRun} (hrun : run ∈ page.runs) : run.IsDrawable := by
  have hfooter : (Sheet.ofLayout layout).footer = [layout.footer.run layout.page] :=
    Sheet.footerRuns_eq ..
  have hholds := Flow.holds_run hfooter (Flow.holds_start hfooter) layout.steps
  obtain ⟨placed, hruns⟩ := hholds.exists_runs_eq hpage
  rw [hruns] at hrun
  exact Flow.isDrawable_of_mem_pageRuns (TextRun.isDrawable_of _ _ _ _) hrun

/-- What is drawn for a text is a projection onto the repertoire of the fonts. It has the width of
the text in every style, and every run on every page of a layout consists of it. -/
theorem drawn_as_measured :
    IsProjection isDrawable drawable ∧
    (∀ (style : TextStyle) (text : Text),
      textWidth style (drawable text) = textWidth style text) ∧
    ∀ (layout : Layout), ∀ page ∈ layout.pages, ∀ run ∈ page.runs, run.IsDrawable :=
  ⟨isProjection_drawable, textWidth_drawable, fun layout _ hpage _ hrun ↦
    layout.isDrawable_of_mem_runs hpage hrun⟩

end Layout

end StudyGuide
