import StudyGuide.Proofs.Pages.PrintedText

/-!
No line is placed across the bottom margin unless it is alone at the top of its page. A line that
would end below the margin goes to a new page, and only a text that stands at the top of a page
stays where it is. So everything hangs on the mark `atTop`: wherever it is set, nothing but the
footer stands on the page (`Flow.TopIsBlank`), which every step keeps.

Between two elements the mark is exact (`Flow.MarksTop`). Each element but a gap places a line and
asks for no room after it, so it leaves a page with more on it than the footer
(`Flow.occupied_run`), and a gap at the top of a page moves nothing.
-/

set_option autoImplicit false
set_option relaxedAutoImplicit false

namespace StudyGuide

/-! ### Lines leave something -/

namespace Line

theorem stretchGap?_nil (line : Line) : line.stretchGap? [] = none := by
  simp [stretchGap?]

theorem stretched_ne_nil (line : Line) (baseline : Length) : line.stretched baseline ≠ [] := by
  unfold stretched
  dsimp only
  split
  · exact List.cons_ne_nil _ _
  · rename_i gap hgap
    intro hspread
    cases hwords : (Text.splitAt ' ' line.text).filter (· ≠ []) with
    | nil =>
      rw [hwords, stretchGap?_nil] at hgap
      contradiction
    | cons word more =>
      rw [hwords] at hspread
      contradiction

/-- Every line is drawn, also an empty one. -/
theorem runs_ne_nil (line : Line) (y : Length) : line.runs y ≠ [] := by
  unfold runs
  dsimp only
  split_ifs with hstretch
  · exact line.stretched_ne_nil _
  · exact List.cons_ne_nil _ _

theorem exists_wrapped_eq_cons (style : TextStyle) (x width : Length) (stretch : Bool)
    (text : Text) : ∃ first rest, wrapped style x width stretch text = first :: rest := by
  refine List.exists_cons_of_ne_nil fun hnil ↦ ?_
  have htexts := map_text_ofTexts style x width stretch (Wrap.wrap style width text)
  have hwrapped : ofTexts style x width stretch (Wrap.wrap style width text) = [] := hnil
  rw [hwrapped] at htexts
  exact Wrap.wrap_ne_nil style width text htexts.symm

end Line

namespace Page

/-- Also after a page has been left with shapes it is not blank if it was not before. -/
theorem extend_ne_blank {sheet : Sheet} {page : Page} (h : page ≠ sheet.blank)
    (shapes : List Shape) : page.extend shapes [] ≠ sheet.blank := by
  intro hblank
  have hshapes : page.shapes ++ shapes = [] := congrArg Page.shapes hblank
  have hruns : page.runs ++ [] = sheet.footer := congrArg Page.runs hblank
  refine h ?_
  calc page = ⟨page.shapes, page.runs⟩ := rfl
    _ = sheet.blank := by
      rw [(List.append_eq_nil_iff.mp hshapes).1, ← List.append_nil page.runs, hruns, Sheet.blank]

/-- A line stands after the footer. -/
theorem body_extend_line_ne_nil {footer : TextRun} {page : Page}
    (h : page.runs.head? = some footer) (shapes : List Shape) (drawn : PlacedLine) :
    (page.extend shapes [drawn]).body ≠ [] := by
  rw [body_extend h, List.flatMap_singleton]
  exact List.append_ne_nil_of_right_ne_nil _ (drawn.line.runs_ne_nil drawn.top)

end Page

/-- A line that is drawn at `y` ends above the bottom margin. In a box the padding under it does,
too. -/
def Setting.Clears (setup : PageSetup) (line : Line) (y : Length) : Setting → Prop
  | .header | .text _ => ¬y - line.height < setup.bottom
  | .box look => ¬y - line.height - look.padding < setup.bottom

theorem Setting.clears_iff {setup : PageSetup} {line : Line} {y : Length} (setting : Setting) :
    setting.Clears setup line y ↔ ¬Flow.lineEnd setting line y < setup.bottom := by
  cases setting <;> rfl

namespace Flow

variable {sheet : Sheet} {flow : Flow}

/-! ### The mark of the top -/

/-- Where the mark is set, nothing but the footer stands on the page and no block is open. -/
structure TopIsBlank (sheet : Sheet) (flow : Flow) : Prop where
  page : flow.atTop = true → flow.page = sheet.blank
  fragment : flow.atTop = true → flow.fragmentTop = none

theorem TopIsBlank.of_not_atTop (h : flow.atTop = false) : TopIsBlank sheet flow where
  page := fun htop ↦ absurd htop (by simp [h])
  fragment := fun htop ↦ absurd htop (by simp [h])

theorem topIsBlank_start : TopIsBlank sheet (start sheet) := ⟨fun _ ↦ rfl, fun _ ↦ rfl⟩

theorem topIsBlank_newPage : TopIsBlank sheet (newPage sheet flow) := ⟨fun _ ↦ rfl, fun _ ↦ rfl⟩

theorem paintRule_of_none (rule : Option Border) (h : flow.fragmentTop = none) :
    paintRule sheet rule flow = flow := by
  rw [paintRule, h]

theorem paintBox_of_none (look : BoxLook) (bottom : Length) (h : flow.fragmentTop = none) :
    paintBox sheet look bottom flow = flow := by
  rw [paintBox, h]

@[simp] theorem atTop_paintRule (rule : Option Border) :
    (paintRule sheet rule flow).atTop = flow.atTop := by
  unfold paintRule
  split <;> rfl

@[simp] theorem atTop_paintBox (look : BoxLook) (bottom : Length) :
    (paintBox sheet look bottom flow).atTop = flow.atTop := by
  unfold paintBox
  split <;> rfl

/-- Whatever a step does, it leaves the mark at blank pages only. -/
theorem topIsBlank_step (h : TopIsBlank sheet flow) (step : Step) :
    TopIsBlank sheet (Flow.step sheet flow step) := by
  cases step with
  | gap height => exact ⟨h.page, h.fragment⟩
  | space height =>
    unfold Flow.step
    dsimp only
    split_ifs with htop
    · exact h
    · exact ⟨h.page, h.fragment⟩
  | keep height =>
    unfold Flow.step
    dsimp only
    split_ifs with hfull
    · exact topIsBlank_newPage
    · exact h
  | line setting line => exact .of_not_atTop rfl
  | headerRule color spaceAfter => exact .of_not_atTop rfl
  | openBox look => exact .of_not_atTop rfl
  | closeBox look =>
    refine ⟨fun htop ↦ ?_, fun _ ↦ rfl⟩
    have htop : flow.atTop = true := by simpa [Flow.step, moveDown] using htop
    -- No box is open at the top of a page, so none is painted.
    have hnone : (flow.moveDown look.padding).fragmentTop = none := h.fragment htop
    simp only [Flow.step, paintBox_of_none look _ hnone]
    exact h.page htop
  | closeText rule =>
    refine ⟨fun htop ↦ ?_, fun _ ↦ rfl⟩
    have htop : flow.atTop = true := by simpa [Flow.step] using htop
    simp only [Flow.step, paintRule_of_none rule (h.fragment htop), h.page htop]

theorem topIsBlank_run (h : TopIsBlank sheet flow) (steps : List Step) :
    TopIsBlank sheet (run sheet flow steps) := by
  induction steps generalizing flow with
  | nil => exact h
  | cons step rest ih => exact ih (topIsBlank_step h step)

/-! ### Where lines are placed -/

/-- The flow that a line is drawn on: the page is turned if the line does not fit. -/
def ready (sheet : Sheet) (setting : Setting) (line : Line) (flow : Flow) : Flow :=
  openText setting (turnPage sheet setting line flow)

/-- The line ends above the bottom margin, or nothing but the footer stands on the page. -/
def HasRoom (sheet : Sheet) (setting : Setting) (line : Line) (flow : Flow) : Prop :=
  setting.Clears sheet.setup line flow.y ∨ flow.page = sheet.blank

theorem hasRoom_openText {setting : Setting} {line : Line}
    (h : HasRoom sheet setting line flow) : HasRoom sheet setting line (openText setting flow) := by
  cases setting <;> exact h

theorem hasRoom_turnPage (h : TopIsBlank sheet flow) (setting : Setting) (line : Line) :
    HasRoom sheet setting line (turnPage sheet setting line flow) := by
  unfold turnPage
  by_cases hfits : overflows sheet setting line flow = true
  · rw [if_neg (by simp [hfits])]
    cases setting with
    | header => exact Or.inr rfl
    | text rule =>
      dsimp only
      split_ifs with htop
      · exact Or.inr (h.page htop)
      · exact Or.inr rfl
    | box look => exact Or.inr rfl
  · rw [if_pos (by simpa using hfits)]
    exact Or.inl (setting.clears_iff.mpr (by simpa [overflows] using hfits))

/-- A line is drawn where there is room for it, or alone on its page. -/
theorem hasRoom_ready (h : TopIsBlank sheet flow) (setting : Setting) (line : Line) :
    HasRoom sheet setting line (ready sheet setting line flow) :=
  hasRoom_openText (hasRoom_turnPage h setting line)

/-! ### Between two elements -/

/-- The mark is set exactly where nothing but the footer stands on the page, and there the cursor
is at the top. -/
structure MarksTop (sheet : Sheet) (flow : Flow) : Prop where
  atTop_iff : flow.atTop = true ↔ flow.page = sheet.blank
  y_eq : flow.atTop = true → flow.y = sheet.setup.top

/-- Something beside the footer stands on the page. -/
structure Occupied (sheet : Sheet) (flow : Flow) : Prop where
  atTop_eq : flow.atTop = false
  page_ne : flow.page ≠ sheet.blank

theorem Occupied.marksTop (h : Occupied sheet flow) : MarksTop sheet flow where
  atTop_iff := iff_of_false (by simp [h.atTop_eq]) h.page_ne
  y_eq := fun htop ↦ absurd htop (by simp [h.atTop_eq])

theorem marksTop_start : MarksTop sheet (start sheet) := ⟨iff_of_true rfl rfl, fun _ ↦ rfl⟩

variable {footer : TextRun}

theorem occupied_placeLine (hfooter : sheet.footer = [footer]) (hfooted : Footed footer flow)
    (setting : Setting) (line : Line) : Occupied sheet (placeLine sheet setting line flow) where
  atTop_eq := rfl
  page_ne := by
    intro hblank
    have hbody : (placeLine sheet setting line flow).page.body = [] := by
      rw [hblank, Page.body, Sheet.blank, hfooter]
      rfl
    cases advances_placeLine sheet flow setting line with
    | stays shapes hfinished hnumber hpage =>
      rw [hpage] at hbody
      exact Page.body_extend_line_ne_nil ((footed_iff flow).mp hfooted).2 shapes _ hbody
    | turns left shapes hfinished hnumber hpage =>
      rw [hpage] at hbody
      exact Page.body_extend_line_ne_nil (Sheet.head?_runs_blank hfooter) shapes _ hbody

theorem occupied_headerRule (color : Rgb) (spaceAfter : Length) :
    Occupied sheet (headerRule sheet color spaceAfter flow) where
  atTop_eq := rfl
  page_ne := by
    intro hblank
    have hshapes := congrArg Page.shapes hblank
    simp [headerRule, paint, Sheet.blank] at hshapes

theorem Occupied.paint (h : Occupied sheet flow) (shapes : List Shape) :
    Occupied sheet (flow.paint shapes) where
  atTop_eq := h.atTop_eq
  page_ne := by
    have hpage : (flow.paint shapes).page = flow.page.extend shapes [] := by
      simp [Flow.paint, Page.extend]
    rw [hpage]
    exact Page.extend_ne_blank h.page_ne shapes

theorem Occupied.paintRule (h : Occupied sheet flow) (rule : Option Border) :
    Occupied sheet (paintRule sheet rule flow) := by
  unfold Flow.paintRule
  split
  · exact h
  · exact h.paint _

theorem Occupied.paintBox (h : Occupied sheet flow) (look : BoxLook) (bottom : Length) :
    Occupied sheet (paintBox sheet look bottom flow) := by
  unfold Flow.paintBox
  split
  · exact h
  · exact h.paint _

end Flow

/-- Steps that may leave the page before anything is put on it. -/
def Step.IsKeep : Step → Prop
  | .keep _ => True
  | _ => False

namespace Flow

variable {sheet : Sheet} {flow : Flow} {footer : TextRun}

theorem occupied_step (hfooter : sheet.footer = [footer]) (hfooted : Footed footer flow)
    (h : Occupied sheet flow) {step : Step} (hstep : ¬step.IsKeep) :
    Occupied sheet (Flow.step sheet flow step) := by
  cases step with
  | gap height => exact ⟨h.atTop_eq, h.page_ne⟩
  | space height =>
    unfold Flow.step
    dsimp only
    split_ifs with htop
    · exact h
    · exact ⟨h.atTop_eq, h.page_ne⟩
  | keep height => exact absurd trivial hstep
  | line setting line => exact occupied_placeLine hfooter hfooted setting line
  | headerRule color spaceAfter => exact occupied_headerRule color spaceAfter
  | openBox look => exact ⟨rfl, h.page_ne⟩
  | closeBox look =>
    have hmoved : Occupied sheet (flow.moveDown look.padding) := ⟨h.atTop_eq, h.page_ne⟩
    have hpainted := hmoved.paintBox look (flow.moveDown look.padding).y
    exact ⟨hpainted.atTop_eq, hpainted.page_ne⟩
  | closeText rule =>
    have hpainted := h.paintRule rule
    exact ⟨hpainted.atTop_eq, hpainted.page_ne⟩

theorem footed_run (hfooter : sheet.footer = [footer]) (hfooted : Footed footer flow)
    (steps : List Step) : Footed footer (run sheet flow steps) :=
  (prints_run hfooter flow steps).footed hfooted

theorem occupied_run (hfooter : sheet.footer = [footer]) (hfooted : Footed footer flow)
    (h : Occupied sheet flow) {steps : List Step} (hsteps : ∀ step ∈ steps, ¬step.IsKeep) :
    Occupied sheet (run sheet flow steps) := by
  induction steps generalizing flow with
  | nil => exact h
  | cons step rest ih =>
    obtain ⟨hstep, hrest⟩ := List.forall_mem_cons.mp hsteps
    exact ih (footed_run hfooter hfooted [step]) (occupied_step hfooter hfooted h hstep) hrest

/-- Steps that place a line and ask for no room after it end on a page that is not blank. -/
theorem occupied_run_of_line (hfooter : sheet.footer = [footer]) (hfooted : Footed footer flow)
    (before : List Step) (setting : Setting) (line : Line) {after : List Step}
    (hafter : ∀ step ∈ after, ¬step.IsKeep) :
    Occupied sheet (run sheet flow (before ++ .line setting line :: after)) := by
  rw [run_append]
  have hbefore := footed_run hfooter hfooted before
  exact occupied_run hfooter (footed_run hfooter hbefore [.line setting line])
    (occupied_placeLine hfooter hbefore setting line) hafter

theorem marksTop_space (h : MarksTop sheet flow) (height : Length) :
    MarksTop sheet (Flow.step sheet flow (.space height)) := by
  unfold Flow.step
  dsimp only
  split_ifs with htop
  · exact h
  · exact ⟨h.atTop_iff, fun hmark ↦ absurd hmark htop⟩

theorem occupied_ofHeader (hfooter : sheet.footer = [footer]) (hfooted : Footed footer flow)
    (setup : PageSetup) (header : Header) :
    Occupied sheet (run sheet flow (Step.ofHeader setup header)) := by
  obtain ⟨first, rest, htitle⟩ := Line.exists_wrapped_eq_cons header.titleStyle setup.margin
    setup.contentWidth false header.title
  unfold Step.ofHeader
  dsimp only
  rw [htitle, List.map_cons, List.cons_append]
  refine occupied_run_of_line hfooter hfooted [] _ first ?_
  simp [Step.IsKeep, or_imp, forall_and]

theorem occupied_ofText (hfooter : sheet.footer = [footer]) (hfooted : Footed footer flow)
    (setup : PageSetup) (block : TextBlock) :
    Occupied sheet (run sheet flow (Step.ofText setup block)) := by
  obtain ⟨first, rest, hlines⟩ : ∃ first rest, Step.textLines setup block = first :: rest :=
    Line.exists_wrapped_eq_cons ..
  unfold Step.ofText
  dsimp only
  rw [hlines, List.map_cons, List.append_assoc, List.cons_append]
  refine occupied_run_of_line hfooter hfooted _ _ first ?_
  simp [Step.IsKeep, or_imp, forall_and]

theorem occupied_ofCallout (hfooter : sheet.footer = [footer]) (hfooted : Footed footer flow)
    (setup : PageSetup) (callout : Callout) :
    Occupied sheet (run sheet flow (Step.ofCallout setup callout)) := by
  obtain ⟨first, rest, hlines⟩ : ∃ first rest, Step.captionLines setup callout = first :: rest :=
    Line.exists_wrapped_eq_cons ..
  unfold Step.ofCallout
  dsimp only
  rw [hlines, List.map_cons, List.append_assoc, List.cons_append]
  refine occupied_run_of_line hfooter hfooted [.space callout.spaceBefore,
    .keep (Step.calloutHead setup callout), .openBox (Step.lookOf callout)] _ first ?_
  simp [Step.IsKeep, or_imp, forall_and]

theorem marksTop_ofElement (hfooter : sheet.footer = [footer]) (hfooted : Footed footer flow)
    (h : MarksTop sheet flow) (setup : PageSetup) (element : Element) :
    MarksTop sheet (run sheet flow (Step.ofElement setup element)) := by
  cases element with
  | spacer height => exact marksTop_space h height
  | text block => exact (occupied_ofText hfooter hfooted setup block).marksTop
  | callout callout => exact (occupied_ofCallout hfooter hfooted setup callout).marksTop

theorem marksTop_elements (hfooter : sheet.footer = [footer]) (hfooted : Footed footer flow)
    (h : MarksTop sheet flow) (setup : PageSetup) (elements : List Element) :
    MarksTop sheet (run sheet flow (elements.flatMap (Step.ofElement setup))) := by
  induction elements generalizing flow with
  | nil => exact h
  | cons element rest ih =>
    rw [List.flatMap_cons, run_append]
    exact ih (footed_run hfooter hfooted _) (marksTop_ofElement hfooter hfooted h setup element)

end Flow

namespace Layout

/-- The flow after the header and the first `count` elements. -/
def flowAfter (layout : Layout) (count : Nat) : Flow :=
  let sheet := Sheet.ofLayout layout
  Flow.run sheet (Flow.start sheet) (Step.ofHeader layout.page layout.header ++
    (layout.elements.take count).flatMap (Step.ofElement layout.page))

/-- Every line of a layout is drawn where it, or the box around it, ends above the bottom margin,
or on a page that nothing but the footer stands on. Before and after every element the mark of the
top is exact, and where it is set the cursor is at the top. -/
theorem lines_clear_bottom_margin (layout : Layout) :
    let sheet := Sheet.ofLayout layout
    (∀ before setting line after, layout.steps = before ++ .line setting line :: after →
      let placed := Flow.ready sheet setting line (Flow.run sheet (Flow.start sheet) before)
      Flow.run sheet (Flow.start sheet) (before ++ [.line setting line]) = placed.draw line ∧
        (setting.Clears sheet.setup line placed.y ∨ placed.page = sheet.blank)) ∧
    Flow.MarksTop sheet (Flow.start sheet) ∧
    ∀ count, Flow.MarksTop sheet (layout.flowAfter count) := by
  intro sheet
  obtain ⟨footer, hfooter⟩ := Sheet.exists_footerRuns_eq layout.page layout.footer
  have hsheet : sheet.footer = [footer] := hfooter
  refine ⟨?_, Flow.marksTop_start, fun count ↦ ?_⟩
  · intro before setting line after _ placed
    have htop : Flow.TopIsBlank sheet (Flow.run sheet (Flow.start sheet) before) :=
      Flow.topIsBlank_run Flow.topIsBlank_start before
    exact ⟨Flow.run_append .., Flow.hasRoom_ready htop setting line⟩
  · have hstart : Flow.Footed footer (Flow.start sheet) := Flow.footed_start hsheet
    have hheader := Flow.occupied_ofHeader hsheet hstart layout.page layout.header
    have hfooted := Flow.footed_run hsheet hstart (Step.ofHeader layout.page layout.header)
    unfold flowAfter
    dsimp only
    rw [Flow.run_append]
    exact Flow.marksTop_elements hsheet hfooted hheader.marksTop layout.page _

/-- A page of ten points between the margins, which no line of the header fits on. -/
def cramped : Layout :=
  let style : TextStyle := { size := 10, color := ⟨0, 0, 0⟩ }
  { page := { width := 200, height := 100, margin := 45, footerOffset := 30 }
    header :=
      { title := ['G', 'u', 'í', 'a'], titleStyle := style, subtitle := [], subtitleStyle := style
        ruleColor := ⟨0, 0, 0⟩, spaceAfter := 0 }
    footer := { text := [], style }
    elements := [] }

/-- The line of a title that fits on no page stands alone on its own. -/
theorem cramped_title_stands_alone :
    ∃ title after, cramped.steps = .line .header title :: after ∧
      (Flow.ready (Sheet.ofLayout cramped) .header title
        (Flow.start (Sheet.ofLayout cramped))).page = (Sheet.ofLayout cramped).blank :=
  ⟨_, _, rfl, ((lines_clear_bottom_margin cramped).1 [] .header _ _ rfl).2.resolve_left
    fun hclears ↦ hclears (by decide)⟩

end Layout

end StudyGuide
