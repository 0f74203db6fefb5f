import Mathlib.Tactic.SplitIfs
import StudyGuide.Proofs.Pages.Turning
import StudyGuide.Proofs.Text.Ink

/-!
No text is lost, repeated or moved by the breaking of pages. Every page begins with its footer
(`Flow.Footed`), and what stands after the footers, page by page, is the text of the lines that
have been placed. An advance adds the ink of the lines it draws and nothing else
(`Flow.Prints.of_advances`), so each step prints its own line (`Flow.prints_step`) and a run
prints the ink of its steps in order (`Flow.prints_run`). The steps of a layout hold the ink of its
texts (`Layout.ink_steps`), and `Layout.pages_print_texts` puts the two together.
-/

set_option autoImplicit false
set_option relaxedAutoImplicit false

namespace StudyGuide

open Font

/-! ### Texts of a layout -/

/-- The texts of an element, in reading order. -/
def Element.texts : Element → List Text
  | .spacer _ => []
  | .text block => [block.text]
  | .callout note => [note.caption, note.body]

/-- The texts of a layout in reading order, without the footer. -/
def Layout.texts (layout : Layout) : List Text :=
  layout.header.title :: layout.header.subtitle :: layout.elements.flatMap Element.texts

/-- The runs of a page after its footer. -/
def Page.body (page : Page) : List TextRun := page.runs.drop 1

/-! ### The footer -/

theorem Wrap.wrap_ne_nil (style : TextStyle) (width : Length) (text : Text) :
    Wrap.wrap style width text ≠ [] := by
  unfold Wrap.wrap
  split
  · exact List.cons_ne_nil _ _
  · assumption

/-- The first line of the footer's text, at the height of the footer. -/
def Footer.run (setup : PageSetup) (footer : Footer) : TextRun :=
  let width := setup.contentWidth
  let line := (Wrap.wrap footer.style width footer.text).head
    (Wrap.wrap_ne_nil footer.style width footer.text)
  .of line footer.style (setup.margin + Line.alignOffset footer.style width line)
    setup.footerOffset

/-- The footer is one run. -/
theorem Sheet.footerRuns_eq (setup : PageSetup) (footer : Footer) :
    footerRuns setup footer = [footer.run setup] := by
  unfold footerRuns Footer.run
  dsimp only
  rw [List.take_one, List.head?_eq_some_head (Wrap.wrap_ne_nil _ _ _)]
  rfl

theorem Sheet.exists_footerRuns_eq (setup : PageSetup) (footer : Footer) :
    ∃ run, Sheet.footerRuns setup footer = [run] :=
  ⟨_, footerRuns_eq setup footer⟩

namespace Flow

variable {sheet : Sheet} {footer : TextRun}

/-- Every page of a flow begins with the footer. -/
def Footed (footer : TextRun) (flow : Flow) : Prop :=
  ∀ page ∈ flow.pages, page.runs.head? = some footer

theorem footed_iff (flow : Flow) :
    Footed footer flow ↔
      (∀ page ∈ flow.finished, page.runs.head? = some footer) ∧
        flow.page.runs.head? = some footer := by
  simp [Footed, pages, or_imp, forall_and]

/-- The ink of everything that stands after the footers. -/
def printed (flow : Flow) : Text := (TextRun.joined (flow.pages.flatMap Page.body)).ink

theorem printed_eq (flow : Flow) :
    flow.printed =
      (TextRun.joined (flow.finished.flatMap Page.body)).ink ++
        (TextRun.joined flow.page.body).ink := by
  simp [printed, pages]

/-- From one flow to another the pages have kept their footers and got the ink `text`. -/
structure Prints (footer : TextRun) (text : Text) (before after : Flow) : Prop where
  footed : Footed footer before → Footed footer after
  printed : Footed footer before → after.printed = before.printed ++ text

theorem Prints.trans {first second : Text} {before middle after : Flow}
    (hfirst : Prints footer first before middle) (hsecond : Prints footer second middle after) :
    Prints footer (first ++ second) before after where
  footed := fun h ↦ hsecond.footed (hfirst.footed h)
  printed := fun h ↦ by
    rw [hsecond.printed (hfirst.footed h), hfirst.printed h, List.append_assoc]

end Flow

/-! ### Advances -/

theorem PlacedLine.ink_joined (placed : List PlacedLine) :
    (TextRun.joined (placed.flatMap PlacedLine.runs)).ink =
      placed.flatMap fun drawn ↦ (drawable drawn.line.text).ink := by
  induction placed with
  | nil => rfl
  | cons drawn rest ih =>
    rw [List.flatMap_cons, TextRun.joined_append, Text.ink_append, ih, PlacedLine.runs,
      Line.ink_runs, List.flatMap_cons]

namespace Page

variable {footer : TextRun} {page : Page}

theorem head?_extend (h : page.runs.head? = some footer) (shapes : List Shape)
    (placed : List PlacedLine) : (page.extend shapes placed).runs.head? = some footer := by
  rw [extend, List.head?_append, h, Option.some_or]

theorem body_extend (h : page.runs.head? = some footer) (shapes : List Shape)
    (placed : List PlacedLine) :
    (page.extend shapes placed).body = page.body ++ placed.flatMap PlacedLine.runs := by
  obtain ⟨rest, hrest⟩ := List.head?_eq_some_iff.mp h
  simp [body, extend, hrest]

end Page

theorem Sheet.head?_runs_blank {sheet : Sheet} {footer : TextRun} (h : sheet.footer = [footer]) :
    sheet.blank.runs.head? = some footer := by
  rw [Sheet.blank, h, List.head?_cons]

/-- The ink that a step prints. -/
def Step.ink : Step → Text
  | .line _ placed => (drawable placed.text).ink
  | _ => []

theorem Step.ink_eq (step : Step) :
    step.ink = step.line?.toList.flatMap fun line ↦ (drawable line.text).ink := by
  cases step <;> simp [ink, line?]

namespace Flow

variable {sheet : Sheet} {footer : TextRun}

/-- An advance prints the lines that are drawn. A page that is left is left with its text, and a
new page begins with its footer. -/
theorem Prints.of_advances (hfooter : sheet.footer = [footer]) {placed : List PlacedLine}
    {before after : Flow} (h : Advances sheet placed before after) :
    Prints footer (placed.flatMap fun drawn ↦ (drawable drawn.line.text).ink) before after where
  footed := fun hbefore ↦ by
    obtain ⟨hfinished, hpage⟩ := (footed_iff before).mp hbefore
    rw [footed_iff]
    cases h with
    | stays shapes hsame hnumber hafter =>
      rw [hsame, hafter]
      exact ⟨hfinished, Page.head?_extend hpage shapes placed⟩
    | turns left shapes hleft hnumber hafter =>
      rw [hleft, hafter]
      refine ⟨List.forall_mem_append.mpr ⟨hfinished, ?_⟩,
        Page.head?_extend (Sheet.head?_runs_blank hfooter) shapes placed⟩
      exact List.forall_mem_singleton.mpr (Page.head?_extend hpage left [])
  printed := fun hbefore ↦ by
    obtain ⟨-, hpage⟩ := (footed_iff before).mp hbefore
    rw [printed_eq, printed_eq]
    cases h with
    | stays shapes hsame hnumber hafter =>
      rw [hsame, hafter, Page.body_extend hpage, TextRun.joined_append, Text.ink_append,
        PlacedLine.ink_joined, List.append_assoc]
    | turns left shapes hleft hnumber hafter =>
      have hblank : sheet.blank.body = [] := by rw [Page.body, Sheet.blank, hfooter]; rfl
      rw [hleft, hafter, Page.body_extend (Sheet.head?_runs_blank hfooter), hblank,
        List.nil_append, PlacedLine.ink_joined, List.flatMap_append, List.flatMap_singleton,
        Page.body_extend hpage, List.flatMap_nil, List.append_nil, TextRun.joined_append,
        Text.ink_append]

/-! ### Steps and runs -/

theorem prints_step (hfooter : sheet.footer = [footer]) (flow : Flow) (step : Step) :
    Prints footer step.ink flow (Flow.step sheet flow step) := by
  have hink : ((placed sheet flow step).flatMap fun drawn ↦ (drawable drawn.line.text).ink) =
      step.ink := by
    rw [step.ink_eq, ← map_line_placed sheet flow step, List.flatMap_map]
  exact hink ▸ .of_advances hfooter (advances_step sheet flow step)

/-- A run prints the ink of its steps, in their order. -/
theorem prints_run (hfooter : sheet.footer = [footer]) (flow : Flow) (steps : List Step) :
    Prints footer (steps.flatMap Step.ink) flow (run sheet flow steps) := by
  induction steps generalizing flow with
  | nil => exact .of_advances hfooter (.refl flow)
  | cons step rest ih => exact (prints_step hfooter flow step).trans (ih _)

theorem footed_start (hfooter : sheet.footer = [footer]) : Footed footer (start sheet) := by
  simp [Footed, start, pages, Sheet.blank, hfooter]

theorem printed_start (hfooter : sheet.footer = [footer]) : (start sheet).printed = [] := by
  simp [printed, start, pages, Sheet.blank, Page.body, hfooter]

end Flow

/-! ### The ink of a layout -/

namespace Step

/-- Steps that place the lines of one text print the ink of that text. -/
theorem ink_wrapped (setting : Setting) (style : TextStyle) (x width : Length) (stretch : Bool)
    (text : Text) :
    ((Line.wrapped style x width stretch text).map (Step.line setting)).flatMap Step.ink =
      (drawable text).ink := by
  rw [List.flatMap_map]
  exact Line.ink_wrapped style x width stretch text

theorem ink_ofHeader (setup : PageSetup) (header : Header) :
    (ofHeader setup header).flatMap Step.ink =
      (drawable header.title).ink ++ (drawable header.subtitle).ink := by
  simp [ofHeader, ink_wrapped, Step.ink]

theorem ink_ofText (setup : PageSetup) (block : TextBlock) :
    (ofText setup block).flatMap Step.ink = (drawable block.text).ink := by
  unfold ofText textLines
  dsimp only
  split_ifs with hkeep <;> simp [ink_wrapped, Step.ink]

theorem ink_ofCallout (setup : PageSetup) (callout : Callout) :
    (ofCallout setup callout).flatMap Step.ink =
      (drawable callout.caption).ink ++ (drawable callout.body).ink := by
  simp [ofCallout, captionLines, bodyLines, ink_wrapped, Step.ink]

theorem ink_ofElement (setup : PageSetup) (element : Element) :
    (ofElement setup element).flatMap Step.ink =
      element.texts.flatMap fun text ↦ (drawable text).ink := by
  cases element with
  | spacer height => rfl
  | text block => simp [ofElement, Element.texts, ink_ofText]
  | callout callout => simp [ofElement, Element.texts, ink_ofCallout]

end Step

namespace Layout

theorem ink_steps (layout : Layout) :
    layout.steps.flatMap Step.ink = (drawable layout.texts.flatten).ink := by
  rw [drawable_flatten, Text.ink_flatMap]
  simp only [steps, texts, List.flatMap_append, List.flatMap_cons, Step.ink_ofHeader,
    List.flatMap_assoc, Step.ink_ofElement, List.append_assoc]

/-- Every page begins with one and the same footer, and the ink that follows the footers, page by
page and run by run, is the ink of the title, the subtitle and the elements in their order. -/
theorem pages_print_texts (layout : Layout) :
    (∃ footer, Sheet.footerRuns layout.page layout.footer = [footer] ∧
      ∀ page ∈ layout.pages, page.runs.head? = some footer) ∧
    Text.ink ((layout.pages.flatMap fun page ↦ page.runs.drop 1).flatMap TextRun.text) =
      Text.ink (drawable layout.texts.flatten) := by
  obtain ⟨footer, hfooter⟩ := Sheet.exists_footerRuns_eq layout.page layout.footer
  have hsheet : (Sheet.ofLayout layout).footer = [footer] := hfooter
  have hprints := Flow.prints_run hsheet (Flow.start (Sheet.ofLayout layout)) layout.steps
  have hstart := Flow.footed_start hsheet
  refine ⟨⟨footer, hfooter, hprints.footed hstart⟩, ?_⟩
  have hprinted := hprints.printed hstart
  rw [Flow.printed_start hsheet, List.nil_append, ink_steps] at hprinted
  exact hprinted

end Layout

end StudyGuide
