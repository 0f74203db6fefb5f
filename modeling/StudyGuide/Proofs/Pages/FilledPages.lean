import StudyGuide.Proofs.Pages.LinePages

/-!
No page is left blank. A page is left for the next one only when something is to be put there, and
whatever is put on a page stays. So a blank page can come about only where a page is left on which
nothing has been put yet, and there are two such places: the first line of the title, which goes on
even from an empty page, and the first line of a callout, which does so when the room that it asks
for has just brought the flow to a new page. Where these two lines fit on a page of their own, every
page holds something beside its footer when it is left, and the last one does so too
(`Flow.Filled`). The subtitle and all other lines come to a page that holds something already, or to
a new page and stay there.
-/

set_option autoImplicit false
set_option relaxedAutoImplicit false

namespace StudyGuide

/-- What is not blank holds a shape, or a run after its footer. -/
theorem Page.shapes_or_body_ne_nil {sheet : Sheet} {footer : TextRun} {page : Page}
    (hfooter : sheet.footer = [footer]) (hhead : page.runs.head? = some footer)
    (h : page ≠ sheet.blank) : page.shapes ≠ [] ∨ page.body ≠ [] := by
  by_contra hempty
  obtain ⟨hshapes, hbody⟩ := not_or.mp hempty
  obtain ⟨rest, hruns⟩ := List.head?_eq_some_iff.mp hhead
  have hrest : rest = [] := by simpa [body, hruns] using hbody
  refine h ?_
  calc page = ⟨page.shapes, page.runs⟩ := rfl
    _ = sheet.blank := by rw [not_not.mp hshapes, hruns, hrest, ← hfooter, Sheet.blank]

namespace Flow

variable {sheet : Sheet} {flow : Flow} {footer : TextRun}

/-- Something beside the footer stands on every page. -/
structure Filled (sheet : Sheet) (flow : Flow) : Prop extends Occupied sheet flow where
  finished_ne : ∀ page ∈ flow.finished, page ≠ sheet.blank

theorem Advances.finished_ne {placed : List PlacedLine} {before after : Flow}
    (hadvance : Advances sheet placed before after) (h : Filled sheet before) :
    ∀ page ∈ after.finished, page ≠ sheet.blank := by
  intro page hpage
  cases hadvance with
  | stays shapes hfinished hnumber hafter =>
    rw [hfinished] at hpage
    exact h.finished_ne page hpage
  | turns left shapes hfinished hnumber hafter =>
    rw [hfinished, List.mem_append, List.mem_singleton] at hpage
    rcases hpage with hbefore | hleft
    · exact h.finished_ne page hbefore
    · rw [hleft]
      exact Page.extend_ne_blank h.page_ne left

theorem Filled.finished_ne_newPage (h : Filled sheet flow) :
    ∀ page ∈ (newPage sheet flow).finished, page ≠ sheet.blank :=
  Advances.finished_ne advances_newPage h

/-! ### Steps -/

theorem Filled.step (hfooter : sheet.footer = [footer]) (hfooted : Footed footer flow)
    (h : Filled sheet flow) {step : Step} (hstep : ¬step.IsKeep) :
    Filled sheet (Flow.step sheet flow step) :=
  ⟨occupied_step hfooter hfooted h.toOccupied hstep, (advances_step sheet flow step).finished_ne h⟩

theorem Filled.run (hfooter : sheet.footer = [footer]) (hfooted : Footed footer flow)
    (h : Filled sheet flow) {steps : List Step} (hsteps : ∀ step ∈ steps, ¬step.IsKeep) :
    Filled sheet (run sheet flow steps) := by
  induction steps generalizing flow with
  | nil => exact h
  | cons step rest ih =>
    obtain ⟨hstep, hrest⟩ := List.forall_mem_cons.mp hsteps
    exact ih (footed_run hfooter hfooted [step]) (h.step hfooter hfooted hstep) hrest

/-- A line that stays on its page fills it, whatever stands there. -/
theorem filled_placeLine (hfooter : sheet.footer = [footer]) (hfooted : Footed footer flow)
    (hfinished : ∀ page ∈ flow.finished, page ≠ sheet.blank) {setting : Setting} {line : Line}
    (hstays : turnPage sheet setting line flow = flow) :
    Filled sheet (placeLine sheet setting line flow) where
  toOccupied := occupied_placeLine hfooter hfooted setting line
  finished_ne := by
    have hplaced : (placeLine sheet setting line flow).finished = flow.finished := by
      rw [placeLine, hstays]
      exact finished_openText setting
    rwa [hplaced]

/-- After asking for room a text has its first line on the page it comes to. -/
theorem Filled.keep_text (hfooter : sheet.footer = [footer]) (hfooted : Footed footer flow)
    (h : Filled sheet flow) (height : Length) (rule : Option Border) (line : Line) :
    Filled sheet (Flow.run sheet flow [.keep height, .line (.text rule) line]) := by
  show Filled sheet (placeLine sheet (.text rule) line (Flow.step sheet flow (.keep height)))
  rcases step_keep_cases sheet flow height with hkept | hkept
  · rw [hkept]
    have hline : ¬(Step.line (.text rule) line).IsKeep := id
    exact h.step hfooter hfooted hline
  · have hnew : Footed footer (newPage sheet flow) :=
      (Prints.of_advances hfooter advances_newPage).footed hfooted
    rw [hkept]
    exact filled_placeLine hfooter hnew h.finished_ne_newPage (turnPage_of_atTop rfl rule line)

/-- After asking for room a callout has its first line on the page it comes to, if the line fits
there within its box. -/
theorem Filled.keep_box (hfooter : sheet.footer = [footer]) (hfooted : Footed footer flow)
    (h : Filled sheet flow) (height : Length) {look : BoxLook} {line : Line}
    (hfits : ¬sheet.setup.top - look.padding - line.height - look.padding < sheet.setup.bottom) :
    Filled sheet
      (Flow.run sheet flow [.keep height, .openBox look, .line (.box look) line]) := by
  show Filled sheet (Flow.run sheet (Flow.step sheet flow (.keep height))
    [.openBox look, .line (.box look) line])
  rcases step_keep_cases sheet flow height with hkept | hkept
  · rw [hkept]
    exact h.run hfooter hfooted (by simp [Step.IsKeep])
  · have hnew : Footed footer (newPage sheet flow) :=
      (Prints.of_advances hfooter advances_newPage).footed hfooted
    have hopened : Footed footer (openBox look (newPage sheet flow)) :=
      footed_run hfooter hnew [.openBox look]
    rw [hkept]
    exact filled_placeLine hfooter hopened h.finished_ne_newPage (turnPage_of_fits hfits)

/-! ### Elements and the header -/

theorem Filled.ofText (hfooter : sheet.footer = [footer]) (hfooted : Footed footer flow)
    (h : Filled sheet flow) (setup : PageSetup) (block : TextBlock) :
    Filled sheet (Flow.run sheet flow (Step.ofText setup block)) := by
  obtain ⟨first, after, -, hafter, hsteps⟩ := Step.exists_ofText_eq setup block
  rw [hsteps, Step.roomSteps]
  split_ifs with hkeep
  · let start : List Step := [.keep (Step.textRoom setup block), .line (.text block.rule) first]
    show Filled sheet (Flow.run sheet flow (start ++ after))
    rw [run_append]
    exact (h.keep_text hfooter hfooted _ _ first).run hfooter
      (footed_run hfooter hfooted start) hafter
  · exact h.run hfooter hfooted (List.forall_mem_cons.mpr ⟨id, hafter⟩)

theorem Filled.ofCallout (hfooter : sheet.footer = [footer]) (hfooted : Footed footer flow)
    (h : Filled sheet flow) (setup : PageSetup) {note : Callout}
    (hfits : ¬sheet.setup.top - note.padding - note.captionStyle.lineHeight - note.padding <
      sheet.setup.bottom) :
    Filled sheet (Flow.run sheet flow (Step.ofCallout setup note)) := by
  obtain ⟨first, after, hheight, hafter, hsteps⟩ := Step.exists_ofCallout_eq setup note
  let spaced := Flow.step sheet flow (.space note.spaceBefore)
  have hspaced : Filled sheet spaced := h.step hfooter hfooted id
  have hfooted_spaced : Footed footer spaced :=
    footed_run hfooter hfooted [.space note.spaceBefore]
  let start : List Step := [.keep (Step.calloutHead setup note), .openBox (Step.lookOf note),
    .line (.box (Step.lookOf note)) first]
  have hstart : Filled sheet (Flow.run sheet spaced start) :=
    hspaced.keep_box hfooter hfooted_spaced _ (hheight ▸ hfits)
  rw [hsteps]
  show Filled sheet (Flow.run sheet spaced (start ++ after))
  rw [run_append]
  exact hstart.run hfooter (footed_run hfooter hfooted_spaced start) hafter

theorem Filled.elements (hfooter : sheet.footer = [footer]) (hfooted : Footed footer flow)
    (h : Filled sheet flow) (setup : PageSetup) {elements : List Element}
    (hfits : ∀ note, Element.callout note ∈ elements →
      ¬sheet.setup.top - note.padding - note.captionStyle.lineHeight - note.padding <
        sheet.setup.bottom) :
    Filled sheet (Flow.run sheet flow (elements.flatMap (Step.ofElement setup))) := by
  induction elements generalizing flow with
  | nil => exact h
  | cons element rest ih =>
    have hfirst : Filled sheet (Flow.run sheet flow (Step.ofElement setup element)) := by
      cases element with
      | spacer height =>
        have hspace : ¬(Step.space height).IsKeep := id
        exact h.step hfooter hfooted hspace
      | text block => exact h.ofText hfooter hfooted setup block
      | callout note =>
        exact h.ofCallout hfooter hfooted setup (hfits note List.mem_cons_self)
    rw [List.flatMap_cons, run_append]
    exact ih (footed_run hfooter hfooted _) hfirst
      fun note hnote ↦ hfits note (List.mem_cons_of_mem element hnote)

/-- The first line of the title fills the first page, if it fits there. -/
theorem filled_ofHeader (hfooter : sheet.footer = [footer]) (setup : PageSetup) {header : Header}
    (hfits : ¬sheet.setup.top - header.titleStyle.lineHeight < sheet.setup.bottom) :
    Filled sheet (Flow.run sheet (start sheet) (Step.ofHeader setup header)) := by
  obtain ⟨first, more, htitle, hheight⟩ := Line.exists_wrapped_eq_cons_of_height
    header.titleStyle setup.margin setup.contentWidth false header.title
  have hstart : Footed footer (start sheet) := footed_start hfooter
  have hline : ¬lineEnd .header first (start sheet).y < sheet.setup.bottom := by
    rw [lineEnd, hheight]
    exact hfits
  have hfirst : Filled sheet (placeLine sheet .header first (start sheet)) :=
    filled_placeLine hfooter hstart (by simp [start]) (turnPage_of_fits hline)
  unfold Step.ofHeader
  dsimp only
  rw [htitle, List.map_cons, List.cons_append]
  refine hfirst.run hfooter (footed_run hfooter hstart [.line .header first]) ?_
  simp [Step.IsKeep, or_imp, forall_and]

end Flow

namespace Layout

/-- Where the first line of the title fits on a page, and the first line of each callout does so
within its box, every page holds a shape or a run of text beside its footer. -/
theorem pages_not_blank (layout : Layout)
    (htitle : ¬layout.page.top - layout.header.titleStyle.lineHeight < layout.page.bottom)
    (hcallouts : ∀ note, Element.callout note ∈ layout.elements →
      ¬layout.page.top - note.padding - note.captionStyle.lineHeight - note.padding <
        layout.page.bottom) :
    ∀ page ∈ layout.pages, page.shapes ≠ [] ∨ page.body ≠ [] := by
  intro page hpage
  let sheet := Sheet.ofLayout layout
  obtain ⟨footer, hfooter⟩ := Sheet.exists_footerRuns_eq layout.page layout.footer
  have hsheet : sheet.footer = [footer] := hfooter
  have hheader : Flow.Filled sheet
      (Flow.run sheet (Flow.start sheet) (Step.ofHeader layout.page layout.header)) :=
    Flow.filled_ofHeader hsheet layout.page htitle
  have hstart : Flow.Footed footer (Flow.start sheet) := Flow.footed_start hsheet
  have hfilled : Flow.Filled sheet layout.flow := by
    have helements := hheader.elements hsheet (Flow.footed_run hsheet hstart _) layout.page hcallouts
    rwa [← Flow.run_append] at helements
  have hfooted : Flow.Footed footer layout.flow := Flow.footed_run hsheet hstart layout.steps
  refine Page.shapes_or_body_ne_nil hsheet (hfooted page hpage) ?_
  rcases List.mem_append.mp hpage with hfinished | hlast
  · exact hfilled.finished_ne page hfinished
  · rw [List.mem_singleton.mp hlast]
    exact hfilled.page_ne

/-- Two callouts on pages that hold one of them. -/
def flashcards : Layout :=
  let style : TextStyle := { size := 10, color := ⟨0, 0, 0⟩ }
  let card (body : Text) : Element := .callout
    { caption := ['R', 'e', 't', 'o'], captionStyle := style, body, bodyStyle := style
      fill := none, border := none, padding := 10, spaceBefore := 0, spaceAfter := 0 }
  { page := { width := 200, height := 150, margin := 45, footerOffset := 30 }
    header :=
      { title := ['G', 'u', 'í', 'a'], titleStyle := style, subtitle := [], subtitleStyle := style
        ruleColor := ⟨0, 0, 0⟩, spaceAfter := 0 }
    footer := { text := [], style }
    elements := [card ['S', 'o', 'l'], card ['L', 'u', 'z']] }

/-- Neither the header nor a card leaves room for a card on its page, and no page is blank. -/
theorem flashcards_not_blank :
    ¬flashcards.page.top - flashcards.header.titleStyle.lineHeight < flashcards.page.bottom ∧
      (∀ note, Element.callout note ∈ flashcards.elements →
        ¬flashcards.page.top - note.padding - note.captionStyle.lineHeight - note.padding <
          flashcards.page.bottom) ∧
      ∀ page ∈ flashcards.pages, page.shapes ≠ [] ∨ page.body ≠ [] := by
  have htitle : ¬flashcards.page.top - flashcards.header.titleStyle.lineHeight <
      flashcards.page.bottom := by decide
  have hcallouts : ∀ note, Element.callout note ∈ flashcards.elements →
      ¬flashcards.page.top - note.padding - note.captionStyle.lineHeight - note.padding <
        flashcards.page.bottom := by
    intro note hnote
    rcases List.mem_pair.mp hnote with hcard | hcard
    · rw [Element.callout.inj hcard]
      decide
    · rw [Element.callout.inj hcard]
      decide
  exact ⟨htitle, hcallouts, pages_not_blank flashcards htitle hcallouts⟩

end Layout

end StudyGuide
