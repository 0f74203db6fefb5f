import Mathlib.Tactic.SplitIfs
import StudyGuide.Pagination

/-!
What a step does to the pages. A step stays on the page in hand or leaves it for one new page, and
all that a page gets when it is left are the shapes of a block that goes on beyond it. The line of
the step, if it has one, is drawn on the page that is then in hand, after what stands there.
`Flow.advances_step` says so of every step, and what pages hold follows from its two cases
without another look at the steps. The first thing that follows is that what is drawn stays: a run
leaves all pages but the last as they are, and draws on after what the last one holds
(`Flow.keeps_run`).
-/

set_option autoImplicit false
set_option relaxedAutoImplicit false

namespace StudyGuide

/-- The line that a step draws. -/
def Step.line? : Step → Option Line
  | .line _ drawn => some drawn
  | .gap _ | .space _ | .keep _ | .headerRule _ _ | .openBox _ | .closeBox _ | .closeText _ => none

/-- A line and the height of its top. -/
structure PlacedLine where
  line : Line
  top : Length

def PlacedLine.runs (placed : PlacedLine) : List TextRun := placed.line.runs placed.top

/-- A page with more shapes and more lines on it. -/
def Page.extend (page : Page) (shapes : List Shape) (placed : List PlacedLine) : Page where
  shapes := page.shapes ++ shapes
  runs := page.runs ++ placed.flatMap PlacedLine.runs

@[simp] theorem Page.extend_nil (page : Page) : page.extend [] [] = page := by
  simp [Page.extend]

theorem Page.extend_extend (page : Page) (first second : List Shape)
    (placed more : List PlacedLine) :
    (page.extend first placed).extend second more =
      page.extend (first ++ second) (placed ++ more) := by
  simp [Page.extend]

namespace Flow

variable {sheet : Sheet} {flow : Flow}

/-- From one flow to another the lines `placed` are drawn, all of them on the page in hand or all
of them on a new page after it. -/
inductive Advances (sheet : Sheet) (placed : List PlacedLine) (before after : Flow) : Prop where
  | stays (shapes : List Shape) (hfinished : after.finished = before.finished)
      (hnumber : after.pageNumber = before.pageNumber)
      (hpage : after.page = before.page.extend shapes placed)
  | turns (left shapes : List Shape)
      (hfinished : after.finished = before.finished ++ [before.page.extend left []])
      (hnumber : after.pageNumber = before.pageNumber + 1)
      (hpage : after.page = sheet.blank.extend shapes placed)

namespace Advances

theorem of_pages_eq {before after : Flow} (hfinished : after.finished = before.finished)
    (hnumber : after.pageNumber = before.pageNumber) (hpage : after.page = before.page) :
    Advances sheet [] before after :=
  .stays [] hfinished hnumber (by rw [hpage, Page.extend_nil])

theorem refl (flow : Flow) : Advances sheet [] flow flow := of_pages_eq rfl rfl rfl

/-- More may be put on the page that is in hand after an advance. -/
theorem extend {first second : List PlacedLine} {before middle after : Flow}
    (h : Advances sheet first before middle) (shapes : List Shape)
    (hfinished : after.finished = middle.finished) (hnumber : after.pageNumber = middle.pageNumber)
    (hpage : after.page = middle.page.extend shapes second) :
    Advances sheet (first ++ second) before after := by
  cases h with
  | stays earlier hstays hsame hmiddle =>
    refine .stays (earlier ++ shapes) (hfinished.trans hstays) (hnumber.trans hsame) ?_
    rw [hpage, hmiddle, Page.extend_extend]
  | turns left earlier hturns hnext hmiddle =>
    refine .turns left (earlier ++ shapes) (hfinished.trans hturns) (hnumber.trans hnext) ?_
    rw [hpage, hmiddle, Page.extend_extend]

theorem paint {placed : List PlacedLine} {before middle : Flow}
    (h : Advances sheet placed before middle) (shapes : List Shape) :
    Advances sheet placed before (middle.paint shapes) := by
  have hpage : (middle.paint shapes).page = middle.page.extend shapes [] := by
    simp [Flow.paint, Page.extend]
  have hextended : Advances sheet (placed ++ []) before (middle.paint shapes) :=
    h.extend shapes rfl rfl hpage
  rwa [List.append_nil] at hextended

end Advances

/-! ### Staying on the page -/

/-- On a page where nothing stands yet a text stays, also if it does not fit. -/
theorem turnPage_of_atTop (h : flow.atTop = true) (rule : Option Border) (line : Line) :
    turnPage sheet (.text rule) line flow = flow := by
  rw [turnPage, if_pos h, ite_self]

theorem turnPage_of_fits {setting : Setting} {line : Line}
    (h : ¬lineEnd setting line flow.y < sheet.setup.bottom) :
    turnPage sheet setting line flow = flow :=
  if_pos (by simpa [overflows] using h)

theorem step_keep_cases (sheet : Sheet) (flow : Flow) (height : Length) :
    Flow.step sheet flow (.keep height) = flow ∨
      Flow.step sheet flow (.keep height) = newPage sheet flow := by
  unfold Flow.step
  dsimp only
  split_ifs with hfull
  · exact Or.inr rfl
  · exact Or.inl rfl

/-! ### The parts of a step -/

theorem paint_nil : flow.paint [] = flow := by simp [paint]

theorem exists_paintRule_eq (sheet : Sheet) (flow : Flow) (rule : Option Border) :
    ∃ shapes, paintRule sheet rule flow = flow.paint shapes := by
  unfold paintRule
  split
  · exact ⟨[], paint_nil.symm⟩
  · exact ⟨_, rfl⟩

theorem exists_paintBox_eq (sheet : Sheet) (flow : Flow) (look : BoxLook) (bottom : Length) :
    ∃ shapes, paintBox sheet look bottom flow = flow.paint shapes := by
  unfold paintBox
  split
  · exact ⟨[], paint_nil.symm⟩
  · exact ⟨_, rfl⟩

/-- A page that is left keeps what is painted last. -/
theorem advances_newPage_paint (shapes : List Shape) :
    Advances sheet [] flow (newPage sheet (flow.paint shapes)) := by
  refine .turns shapes [] ?_ rfl (by rw [Page.extend_nil]; rfl)
  simp [newPage, paint, Page.extend]

theorem advances_newPage : Advances sheet [] flow (newPage sheet flow) := by
  have hpaint : Advances sheet [] flow (newPage sheet (flow.paint [])) := advances_newPage_paint []
  rwa [paint_nil] at hpaint

theorem advances_turnPage (setting : Setting) (line : Line) :
    Advances sheet [] flow (turnPage sheet setting line flow) := by
  unfold turnPage
  split
  · exact .refl flow
  · cases setting with
    | header => exact advances_newPage
    | text rule =>
      obtain ⟨shapes, hrule⟩ := exists_paintRule_eq sheet flow rule
      dsimp only
      split_ifs with htop
      · exact .refl flow
      · rw [hrule]
        exact advances_newPage_paint shapes
    | box look =>
      obtain ⟨shapes, hbox⟩ := exists_paintBox_eq sheet flow look (flow.y - look.padding)
      dsimp only
      rw [hbox]
      exact (advances_newPage_paint shapes).extend [] rfl rfl (Page.extend_nil _).symm

/-- The line that a step draws, with the height of its top once the page is turned for it. -/
def placed (sheet : Sheet) (flow : Flow) : Step → List PlacedLine
  | .line setting line => [⟨line, (openText setting (turnPage sheet setting line flow)).y⟩]
  | .gap _ | .space _ | .keep _ | .headerRule _ _ | .openBox _ | .closeBox _ | .closeText _ => []

theorem map_line_placed (sheet : Sheet) (flow : Flow) (step : Step) :
    (placed sheet flow step).map PlacedLine.line = step.line?.toList := by
  cases step <;> rfl

/-- A line is drawn once, on the page that is in hand after the turn. -/
theorem advances_placeLine (sheet : Sheet) (flow : Flow) (setting : Setting) (line : Line) :
    Advances sheet (placed sheet flow (.line setting line)) flow
      (placeLine sheet setting line flow) := by
  let ready := openText setting (turnPage sheet setting line flow)
  have hready : Advances sheet [] flow ready := by
    cases setting <;>
      exact (advances_turnPage _ line).extend [] rfl rfl (Page.extend_nil _).symm
  have hdrawn : (draw line ready).page = ready.page.extend [] [⟨line, ready.y⟩] := by
    simp [draw, Page.extend, PlacedLine.runs]
  exact hready.extend [] rfl rfl hdrawn

theorem advances_headerRule (color : Rgb) (spaceAfter : Length) :
    Advances sheet [] flow (headerRule sheet color spaceAfter flow) := by
  unfold headerRule
  dsimp only
  split_ifs with hfull
  · exact (advances_newPage.paint _).extend [] rfl rfl (Page.extend_nil _).symm
  · exact ((Advances.refl flow).paint _).extend [] rfl rfl (Page.extend_nil _).symm

/-- A step draws its line and no other, on the page in hand or on the next one. -/
theorem advances_step (sheet : Sheet) (flow : Flow) (step : Step) :
    Advances sheet (placed sheet flow step) flow (Flow.step sheet flow step) := by
  cases step with
  | line setting line => exact advances_placeLine sheet flow setting line
  | gap height => exact .of_pages_eq rfl rfl rfl
  | openBox look => exact .of_pages_eq rfl rfl rfl
  | space height =>
    unfold Flow.step
    dsimp only
    split_ifs with htop
    · exact .refl flow
    · exact .of_pages_eq rfl rfl rfl
  | keep height =>
    unfold Flow.step
    dsimp only
    split_ifs with hfull
    · exact advances_newPage
    · exact .refl flow
  | headerRule color spaceAfter => exact advances_headerRule color spaceAfter
  | closeBox look =>
    let moved := flow.moveDown look.padding
    have hmoved : Advances sheet [] flow moved := .of_pages_eq rfl rfl rfl
    obtain ⟨shapes, hbox⟩ := exists_paintBox_eq sheet moved look moved.y
    have hpainted : Advances sheet [] flow (paintBox sheet look moved.y moved) :=
      hbox ▸ hmoved.paint shapes
    exact hpainted.extend [] rfl rfl (Page.extend_nil _).symm
  | closeText rule =>
    obtain ⟨shapes, hrule⟩ := exists_paintRule_eq sheet flow rule
    have hpainted : Advances sheet [] flow (paintRule sheet rule flow) :=
      hrule ▸ (Advances.refl flow).paint shapes
    exact hpainted.extend [] rfl rfl (Page.extend_nil _).symm

end Flow

/-! ### What is drawn stays -/

/-- All that is drawn on the page is drawn on the later one too, before anything else. -/
structure Page.IsBeginningOf (page later : Page) : Prop where
  shapes : page.shapes <+: later.shapes
  runs : page.runs <+: later.runs

namespace Page.IsBeginningOf

theorem extend (page : Page) (shapes : List Shape) (placed : List PlacedLine) :
    page.IsBeginningOf (page.extend shapes placed) :=
  ⟨List.prefix_append _ _, List.prefix_append _ _⟩

theorem refl (page : Page) : page.IsBeginningOf page :=
  ⟨List.prefix_refl _, List.prefix_refl _⟩

theorem trans {first second third : Page} (h : first.IsBeginningOf second)
    (hnext : second.IsBeginningOf third) : first.IsBeginningOf third :=
  ⟨h.shapes.trans hnext.shapes, h.runs.trans hnext.runs⟩

end Page.IsBeginningOf

namespace Flow

/-- The pages that were left are the first pages still, and the page that was in hand follows
them, with what was drawn there. -/
def Keeps (before after : Flow) : Prop :=
  ∃ grown more, after.pages = before.finished ++ grown :: more ∧ before.page.IsBeginningOf grown

theorem Keeps.refl (flow : Flow) : Keeps flow flow := ⟨flow.page, [], rfl, .refl _⟩

theorem Keeps.trans {before middle after : Flow} (hfirst : Keeps before middle)
    (hsecond : Keeps middle after) : Keeps before after := by
  obtain ⟨grown, more, hmiddle, hgrown⟩ := hfirst
  obtain ⟨later, rest, hafter, hlater⟩ := hsecond
  rcases List.eq_nil_or_concat more with rfl | ⟨between, last, rfl⟩
  · -- The same page is in hand.
    obtain ⟨hfinished, hpage⟩ := List.append_inj' hmiddle rfl
    obtain rfl := (List.cons.inj hpage).1
    exact ⟨later, rest, hfinished ▸ hafter, hgrown.trans hlater⟩
  · rw [List.concat_eq_append, ← List.cons_append, ← List.append_assoc] at hmiddle
    have hfinished := (List.append_inj' hmiddle rfl).1
    refine ⟨grown, between ++ later :: rest, ?_, hgrown⟩
    rw [hafter, hfinished, List.append_assoc, List.cons_append]

/-- A page that is left gets shapes at most, and the page after it is new. -/
theorem Keeps.of_advances {sheet : Sheet} {placed : List PlacedLine} {before after : Flow}
    (h : Advances sheet placed before after) : Keeps before after := by
  cases h with
  | stays shapes hfinished hnumber hpage =>
    exact ⟨after.page, [], by rw [pages, hfinished], hpage ▸ .extend _ _ _⟩
  | turns left shapes hfinished hnumber hpage =>
    refine ⟨before.page.extend left [], [after.page], ?_, .extend _ _ _⟩
    rw [pages, hfinished, List.append_assoc, List.singleton_append]

theorem keeps_step (sheet : Sheet) (flow : Flow) (step : Step) :
    Keeps flow (Flow.step sheet flow step) :=
  .of_advances (advances_step sheet flow step)

/-- A run draws on the last page and on new ones. -/
theorem keeps_run (sheet : Sheet) (flow : Flow) (steps : List Step) :
    Keeps flow (run sheet flow steps) := by
  induction steps generalizing flow with
  | nil => exact .refl flow
  | cons step rest ih => exact (keeps_step sheet flow step).trans (ih _)

end Flow

end StudyGuide
