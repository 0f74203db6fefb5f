import StudyGuide.Pdf
import StudyGuide.Proofs.Pages.LinePages

/-!
What every page carries and how many pages there are. A page is its footer, once and first, and
after it the lines of its own, and from page to page these are the lines of the layout in their
order (`Flow.Holds`). The number that the flow keeps is that of its pages.

A step starts one page at most, and most steps start none, so the lines nearly bound the pages
(`Flow.length_finished_run_le`). What asks for room in advance could cost one page more. A text
gives it back: on the page it has just been given its first line stays where it is
(`Flow.length_finished_ofText_le`). A callout need not, as its first line may go on to another
page, and so callouts count beside the lines. The two that remain are the first page and the one
that the rule under the header may start.
-/

set_option autoImplicit false
set_option relaxedAutoImplicit false

namespace StudyGuide

/-! ### Lines of a layout -/

/-- The lines of the title and then of the subtitle. -/
def Header.lines (setup : PageSetup) (header : Header) : List Line :=
  Line.wrapped header.titleStyle setup.margin setup.contentWidth false header.title ++
    Line.wrapped header.subtitleStyle setup.margin setup.contentWidth false header.subtitle

namespace Element

def lines (setup : PageSetup) : Element → List Line
  | .spacer _ => []
  | .text block => Step.textLines setup block
  | .callout note => Step.captionLines setup note ++ Step.bodyLines setup note

def isCallout : Element → Bool
  | .callout _ => true
  | .spacer _ | .text _ => false

end Element

/-- The lines of a layout in reading order, without the footer. -/
def Layout.lines (layout : Layout) : List Line :=
  layout.header.lines layout.page ++ layout.elements.flatMap (Element.lines layout.page)

namespace Step

theorem line?_comp_line (setting : Setting) : line? ∘ line setting = some := rfl

theorem filterMap_line?_ofHeader (setup : PageSetup) (header : Header) :
    (ofHeader setup header).filterMap line? = header.lines setup := by
  simp [ofHeader, Header.lines, List.filterMap_cons, line?_comp_line, line?]

theorem filterMap_line?_ofElement (setup : PageSetup) (element : Element) :
    (ofElement setup element).filterMap line? = element.lines setup := by
  cases element with
  | spacer height => rfl
  | text block =>
    unfold ofElement ofText
    dsimp only
    split_ifs with hkeep <;>
      simp [List.filterMap_cons, line?_comp_line, line?, Element.lines]
  | callout note =>
    simp [ofElement, ofCallout, List.filterMap_cons, line?_comp_line, line?, Element.lines]

end Step

theorem Layout.filterMap_line?_steps (layout : Layout) :
    layout.steps.filterMap Step.line? = layout.lines := by
  simp only [steps, lines, List.filterMap_append, List.filterMap_flatMap,
    Step.filterMap_line?_ofHeader, Step.filterMap_line?_ofElement]

/-! ### What stands on a page -/

namespace Flow

variable {sheet : Sheet} {flow : Flow} {footer : TextRun} {lines : List Line}

/-- What a page with these lines has in front of its shapes. -/
def pageRuns (footer : TextRun) (placed : List PlacedLine) : List TextRun :=
  footer :: placed.flatMap PlacedLine.runs

/-- Every page has the footer and then lines of its own, and these are `lines` put together. -/
def Holds (footer : TextRun) (lines : List Line) (flow : Flow) : Prop :=
  ∃ (earlier : List (List PlacedLine)) (last : List PlacedLine),
    flow.finished.map Page.runs = earlier.map (pageRuns footer) ∧
      flow.page.runs = pageRuns footer last ∧
      (earlier.flatten ++ last).map PlacedLine.line = lines

theorem holds_start (hfooter : sheet.footer = [footer]) : Holds footer [] (start sheet) :=
  ⟨[], [], rfl, hfooter, rfl⟩

theorem Holds.advance (hfooter : sheet.footer = [footer]) (h : Holds footer lines flow)
    {placed : List PlacedLine} {after : Flow} (hadvance : Advances sheet placed flow after) :
    Holds footer (lines ++ placed.map PlacedLine.line) after := by
  obtain ⟨earlier, last, hearlier, hlast, rfl⟩ := h
  cases hadvance with
  | stays shapes hfinished hnumber hpage =>
    refine ⟨earlier, last ++ placed, ?_, ?_, ?_⟩
    · rw [hfinished, hearlier]
    · rw [hpage, Page.extend, hlast, pageRuns, pageRuns, List.flatMap_append, List.cons_append]
    · rw [← List.append_assoc, List.map_append]
  | turns left shapes hfinished hnumber hpage =>
    refine ⟨earlier ++ [last], placed, ?_, ?_, ?_⟩
    · rw [hfinished, List.map_append, List.map_append, hearlier]
      simp [Page.extend, hlast]
    · rw [hpage, Page.extend, Sheet.blank, hfooter, pageRuns, List.singleton_append]
    · simp

theorem holds_run (hfooter : sheet.footer = [footer]) (h : Holds footer lines flow)
    (steps : List Step) :
    Holds footer (lines ++ steps.filterMap Step.line?) (run sheet flow steps) := by
  induction steps generalizing flow lines with
  | nil => simpa [run] using h
  | cons step rest ih =>
    have hstep : Holds footer (lines ++ step.line?.toList) (Flow.step sheet flow step) :=
      map_line_placed sheet flow step ▸ h.advance hfooter (advances_step sheet flow step)
    have hlines : lines ++ (step :: rest).filterMap Step.line? =
        lines ++ step.line?.toList ++ rest.filterMap Step.line? := by
      cases hline : step.line? <;> simp [hline]
    rw [hlines]
    exact ih hstep

/-! ### Numbers of pages -/

theorem Advances.pageNumber_eq {placed : List PlacedLine} {before after : Flow}
    (h : Advances sheet placed before after) (hbefore : before.pageNumber = before.pages.length) :
    after.pageNumber = after.pages.length := by
  cases h with
  | stays shapes hfinished hnumber hpage =>
    rw [hnumber, hbefore, pages, pages, hfinished, List.length_append, List.length_append]
    rfl
  | turns left shapes hfinished hnumber hpage =>
    rw [hnumber, hbefore, pages, pages, hfinished]
    simp

theorem pageNumber_run (h : flow.pageNumber = flow.pages.length) (steps : List Step) :
    (run sheet flow steps).pageNumber = (run sheet flow steps).pages.length := by
  induction steps generalizing flow with
  | nil => exact h
  | cons step rest ih => exact ih ((advances_step sheet flow step).pageNumber_eq h)

theorem Advances.length_finished_le {placed : List PlacedLine} {before after : Flow}
    (h : Advances sheet placed before after) :
    after.finished.length ≤ before.finished.length + 1 := by
  cases h with
  | stays shapes hfinished hnumber hpage => simp [hfinished]
  | turns left shapes hfinished hnumber hpage => simp [hfinished]

end Flow

/-- The steps that may start a page; none of them starts two. -/
def Step.mayTurn : Step → Bool
  | .line _ _ | .keep _ | .headerRule _ _ => true
  | .gap _ | .space _ | .openBox _ | .closeBox _ | .closeText _ => false

theorem Step.mayTurn_comp_line (setting : Setting) : mayTurn ∘ line setting = fun _ ↦ true := rfl

namespace Flow

variable (sheet : Sheet) (flow : Flow)

theorem length_finished_step_le (step : Step) :
    (Flow.step sheet flow step).finished.length ≤
      flow.finished.length + [step].countP Step.mayTurn := by
  cases step with
  | line | keep | headerRule => exact (advances_step sheet flow _).length_finished_le
  | gap | openBox => exact Nat.le_refl _
  | space height =>
    unfold Flow.step
    dsimp only
    split_ifs with htop <;> exact Nat.le_refl _
  | closeBox look => exact Nat.le_of_eq (congrArg List.length (finished_paintBox look _))
  | closeText rule => exact Nat.le_of_eq (congrArg List.length (finished_paintRule rule))

theorem length_finished_run_le (steps : List Step) :
    (run sheet flow steps).finished.length ≤
      flow.finished.length + steps.countP Step.mayTurn := by
  induction steps generalizing flow with
  | nil => exact Nat.le_refl _
  | cons step rest ih =>
    have hstep := length_finished_step_le sheet flow step
    have hrest := ih (Flow.step sheet flow step)
    have hcount : (step :: rest).countP Step.mayTurn =
        [step].countP Step.mayTurn + rest.countP Step.mayTurn := by
      rw [← List.countP_append, List.singleton_append]
    rw [hcount]
    show (run sheet (Flow.step sheet flow step) rest).finished.length ≤ _
    omega

/-- Room that a text asks for and the first line of the text take one new page together. -/
theorem length_finished_keep_line_le (height : Length) (rule : Option Border) (line : Line) :
    (run sheet flow [.keep height, .line (.text rule) line]).finished.length ≤
      flow.finished.length + 1 := by
  show (placeLine sheet (.text rule) line
    (Flow.step sheet flow (.keep height))).finished.length ≤ flow.finished.length + 1
  rcases step_keep_cases sheet flow height with hkept | hkept
  · rw [hkept]
    exact length_finished_step_le sheet flow (.line (.text rule) line)
  · -- The new page is at its top, and the line stays there.
    have hplaced : (placeLine sheet (.text rule) line (newPage sheet flow)).finished =
        (newPage sheet flow).finished := by
      rw [placeLine, turnPage_of_atTop rfl]
      exact finished_openText (.text rule)
    rw [hkept, hplaced]
    exact Nat.le_of_eq length_finished_newPage

variable (setup : PageSetup)

/-- A text starts no more pages than it has lines. -/
theorem length_finished_ofText_le (block : TextBlock) :
    (run sheet flow (Step.ofText setup block)).finished.length ≤
      flow.finished.length + (Step.textLines setup block).length := by
  obtain ⟨first, more, hlines⟩ : ∃ first more, Step.textLines setup block = first :: more :=
    Line.exists_wrapped_eq_cons ..
  let keep := Step.roomSteps setup block
  let rest : List Step :=
    more.map (.line (.text block.rule)) ++ [.closeText block.rule, .gap block.spaceAfter]
  let begun := run sheet flow (keep ++ [.line (.text block.rule) first])
  have hsteps : Step.ofText setup block = keep ++ [.line (.text block.rule) first] ++ rest := by
    simp [Step.ofText_eq, hlines, keep, rest]
  have hbegun : begun.finished.length ≤ flow.finished.length + 1 := by
    by_cases hkeep : block.keepWithNext > 0
    · have hstart : keep = [.keep (Step.textRoom setup block)] := if_pos hkeep
      show (run sheet flow (keep ++ [.line (.text block.rule) first])).finished.length ≤ _
      rw [hstart]
      exact length_finished_keep_line_le sheet flow _ block.rule first
    · have hstart : keep = [] := if_neg hkeep
      show (run sheet flow (keep ++ [.line (.text block.rule) first])).finished.length ≤ _
      rw [hstart]
      exact length_finished_step_le sheet flow (.line (.text block.rule) first)
  have hrest : (run sheet begun rest).finished.length ≤ begun.finished.length + more.length := by
    have hcount : rest.countP Step.mayTurn = more.length := by
      simp [rest, Step.mayTurn, Step.mayTurn_comp_line]
    exact hcount ▸ length_finished_run_le sheet begun rest
  rw [hsteps, run_append, hlines, List.length_cons]
  show (run sheet begun rest).finished.length ≤ _
  omega

theorem length_finished_ofHeader_le (header : Header) :
    (run sheet flow (Step.ofHeader setup header)).finished.length ≤
      flow.finished.length + (header.lines setup).length + 1 := by
  have hcount : (Step.ofHeader setup header).countP Step.mayTurn =
      (header.lines setup).length + 1 := by
    simp [Step.ofHeader, Header.lines, Step.mayTurn, Step.mayTurn_comp_line, Nat.add_assoc]
  rw [Nat.add_assoc, ← hcount]
  exact length_finished_run_le sheet flow _

theorem length_finished_ofElement_le (element : Element) :
    (run sheet flow (Step.ofElement setup element)).finished.length ≤
      flow.finished.length + [element].countP Element.isCallout +
        (element.lines setup).length := by
  cases element with
  | spacer height => exact length_finished_step_le sheet flow (.space height)
  | text block => exact length_finished_ofText_le sheet flow setup block
  | callout note =>
    have hcount : (Step.ofCallout setup note).countP Step.mayTurn =
        1 + ((Element.callout note).lines setup).length := by
      simp [Step.ofCallout, Element.lines, List.countP_cons, Step.mayTurn, Step.mayTurn_comp_line]
      omega
    show (run sheet flow (Step.ofCallout setup note)).finished.length ≤
      flow.finished.length + 1 + ((Element.callout note).lines setup).length
    rw [Nat.add_assoc, ← hcount]
    exact length_finished_run_le sheet flow _

theorem length_finished_elements_le (elements : List Element) :
    (run sheet flow (elements.flatMap (Step.ofElement setup))).finished.length ≤
      flow.finished.length + elements.countP Element.isCallout +
        (elements.flatMap (Element.lines setup)).length := by
  induction elements generalizing flow with
  | nil => exact Nat.le_refl _
  | cons element rest ih =>
    have hfirst := length_finished_ofElement_le sheet flow setup element
    have hrest := ih (run sheet flow (Step.ofElement setup element))
    have hcallouts : (element :: rest).countP Element.isCallout =
        [element].countP Element.isCallout + rest.countP Element.isCallout := by
      rw [← List.countP_append, List.singleton_append]
    rw [List.flatMap_cons, run_append, List.flatMap_cons, List.length_append, hcallouts]
    omega

end Flow

namespace Layout

theorem pageCount_eq (layout : Layout) : layout.toPdf.pageCount = layout.pages.length :=
  Flow.pageNumber_run rfl layout.steps

/-- The number that is given with a layout is that of its pages. Every page begins with the same
footer, the first line of its text, and holds nothing but lines of its own after it; together
these are the lines of the layout, each once and in order. The pages are at most two more than
the callouts and the lines. -/
theorem pages_footed_and_bounded (layout : Layout) :
    layout.toPdf.pageCount = layout.pages.length ∧
    (∃ placed : List (List PlacedLine),
      layout.pages.map Page.runs =
          placed.map (Flow.pageRuns (layout.footer.run layout.page)) ∧
        placed.flatten.map PlacedLine.line = layout.lines) ∧
    layout.pages.length ≤
      2 + layout.elements.countP Element.isCallout + layout.lines.length := by
  let sheet := Sheet.ofLayout layout
  have hflow : layout.flow = Flow.run sheet (Flow.start sheet) layout.steps := rfl
  refine ⟨layout.pageCount_eq, ?_, ?_⟩
  · have hfooter : sheet.footer = [layout.footer.run layout.page] := Sheet.footerRuns_eq ..
    obtain ⟨earlier, last, hearlier, hlast, hlines⟩ :=
      Flow.holds_run hfooter (Flow.holds_start hfooter) layout.steps
    refine ⟨earlier ++ [last], ?_, ?_⟩
    · rw [pages, Flow.pages, hflow, List.map_append, List.map_append, hearlier, List.map_singleton,
        List.map_singleton, hlast]
    · rw [List.flatten_append, List.flatten_singleton, hlines, layout.filterMap_line?_steps]
      rfl
  · let headed := Flow.run sheet (Flow.start sheet) (Step.ofHeader layout.page layout.header)
    have hheader : headed.finished.length ≤ 0 + (layout.header.lines layout.page).length + 1 :=
      Flow.length_finished_ofHeader_le sheet (Flow.start sheet) layout.page layout.header
    have helements := Flow.length_finished_elements_le sheet headed layout.page layout.elements
    rw [pages, Flow.pages, hflow, steps, Flow.run_append, List.length_append,
      List.length_singleton, lines, List.length_append]
    show (Flow.run sheet headed _).finished.length + 1 ≤ _
    omega

end Layout

end StudyGuide
