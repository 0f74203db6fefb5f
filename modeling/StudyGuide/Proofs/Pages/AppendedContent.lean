import Mathlib.Data.List.Infix
import StudyGuide.Proofs.Compilation.SeparateLines
import StudyGuide.Proofs.Pages.PageCount

/-!
What is laid out does not change when content comes after it. Every stage only appends: a text that
goes on after a line end has the content of its two parts, more content makes more blocks under the
same title, more blocks make more elements, more elements make more steps, and a run draws on after
what its last page holds. So the pages of a guide are the first pages of a longer one, and only the
last of them may have been drawn on (`Layout.continues_of_more`).

The one stage that is no append is the placeholder, which goes when the first block comes. That is
why the guide that goes on must have a block already.
-/

set_option autoImplicit false
set_option relaxedAutoImplicit false

namespace StudyGuide

/-! ### Pages -/

/-- The later pages begin with these, operator by operator in both layers, but the last of these
may have been drawn on after its last operators, and more pages may follow. -/
def Page.Continues (pages later : List Page) : Prop :=
  ∃ earlier last grown more, pages = earlier ++ [last] ∧ later = earlier ++ grown :: more ∧
    last.shapeOperators <+: grown.shapeOperators ∧ last.textOperators <+: grown.textOperators

namespace Page

theorem IsBeginningOf.operators {page later : Page} (h : page.IsBeginningOf later) :
    page.shapeOperators <+: later.shapeOperators ∧ page.textOperators <+: later.textOperators :=
  ⟨h.shapes.flatMap _, h.runs.flatMap _⟩

theorem Continues.length_le {pages later : List Page} (h : Continues pages later) :
    pages.length ≤ later.length := by
  obtain ⟨earlier, last, grown, more, rfl, rfl, -⟩ := h
  simp

end Page

theorem Flow.Keeps.continues {before after : Flow} (h : Keeps before after) :
    Page.Continues before.pages after.pages := by
  obtain ⟨grown, more, hafter, hgrown⟩ := h
  exact ⟨before.finished, before.page, grown, more, rfl, hafter, hgrown.operators⟩

namespace Layout

/-- A layout with more elements after its own. -/
def append (layout : Layout) (more : List Element) : Layout :=
  { layout with elements := layout.elements ++ more }

theorem keeps_append (layout : Layout) (more : List Element) :
    Flow.Keeps layout.flow (layout.append more).flow := by
  have hsteps : (layout.append more).steps =
      layout.steps ++ more.flatMap (Step.ofElement layout.page) := by
    simp only [steps, append, List.flatMap_append, List.append_assoc]
  have hflow : (layout.append more).flow =
      Flow.run (Sheet.ofLayout layout) layout.flow (more.flatMap (Step.ofElement layout.page)) := by
    rw [flow, hsteps, Flow.run_append]
    rfl
  rw [hflow]
  exact Flow.keeps_run _ _ _

theorem continues_append (layout : Layout) (more : List Element) :
    Page.Continues layout.pages (layout.append more).pages :=
  (layout.keeps_append more).continues

theorem pageCount_le_append (layout : Layout) (more : List Element) :
    layout.toPdf.pageCount ≤ (layout.append more).toPdf.pageCount := by
  rw [pageCount_eq, pageCount_eq]
  exact (layout.continues_append more).length_le

/-! ### Documents -/

/-- More blocks are laid out after those that are there; the placeholder apart, nothing goes. -/
theorem ofDocument_append {doc : Document} (h : doc.blocks ≠ []) (theme : Theme)
    (more : List Block) :
    ofDocument theme { doc with blocks := doc.blocks ++ more } =
      (ofDocument theme doc).append (more.flatMap (ofBlock theme)) := by
  obtain ⟨block, rest, hblocks⟩ := List.exists_cons_of_ne_nil h
  have helements : elementsOf theme (doc.blocks ++ more) =
      elementsOf theme doc.blocks ++ more.flatMap (ofBlock theme) := by
    rw [hblocks]
    exact List.flatMap_append
  simp only [ofDocument, append, helements]
  rfl

end Layout

/-! ### Answers -/

namespace Compilation

open Text

/-- A line end stands where the first text ends and the second begins. -/
def MeetAtLineEnd (first second : Text) : Prop :=
  (∃ c ∈ first.getLast?, isLineEnd c = true) ∨ ∃ c ∈ second.head?, isLineEnd c = true

theorem content_append {first second : Text} (h : MeetAtLineEnd first second) :
    content (first ++ second) = content first ++ content second := by
  have hnil : content [] = [] := rfl
  rcases h with ⟨c, hlast, hc⟩ | ⟨c, hhead, hc⟩
  · obtain ⟨before, rfl⟩ := List.getLast?_eq_some_iff.mp hlast
    rw [List.append_assoc, List.singleton_append, content_append_of_isLineEnd hc,
      content_append_of_isLineEnd hc, hnil, List.append_nil]
  · obtain ⟨after, rfl⟩ := List.head?_eq_some_iff.mp hhead
    have hafter : content (c :: after) = content after := content_append_of_isLineEnd hc [] after
    rw [content_append_of_isLineEnd hc, hafter]

/-- Where there is a block there is a title line above it, and what is added below makes more
blocks. -/
theorem exists_document_append {raw addition : Text} (hmeet : MeetAtLineEnd raw addition)
    (sanitizer : Sanitizer) (fallbackTitle author : Text)
    (hblocks : (compileWith sanitizer fallbackTitle raw author).1.blocks ≠ []) :
    ∃ more, (compileWith sanitizer fallbackTitle (raw ++ addition) author).1 =
      { (compileWith sanitizer fallbackTitle raw author).1 with
        blocks := (compileWith sanitizer fallbackTitle raw author).1.blocks ++ more } := by
  refine ⟨(content addition).filterMap (blockOf? sanitizer), ?_⟩
  rw [document_compileWith] at hblocks
  rw [document_compileWith, document_compileWith, content_append hmeet]
  cases hcontent : content raw with
  | nil =>
    rw [hcontent] at hblocks
    contradiction
  | cons title body =>
    simp only [List.cons_append, List.head?_cons, List.tail_cons, List.filterMap_append]

end Compilation

namespace Layout

open Compilation

/-- Elements that come after others leave the pages of those as they are, but for the last, which
is drawn on. So do lines that come after an answer of which there is a block already, and the pages
do not become fewer. -/
theorem continues_of_more :
    (∀ (layout : Layout) (more : List Element),
      Page.Continues layout.pages (layout.append more).pages ∧
        layout.toPdf.pageCount ≤ (layout.append more).toPdf.pageCount) ∧
    ∀ (sanitizer : Sanitizer) (theme : Theme) (fallbackTitle author raw addition : Text),
      let guideOf (text : Text) :=
        ofDocument theme (compileWith sanitizer fallbackTitle text author).1
      MeetAtLineEnd raw addition →
      (compileWith sanitizer fallbackTitle raw author).1.blocks ≠ [] →
        Page.Continues (guideOf raw).pages (guideOf (raw ++ addition)).pages ∧
          (guideOf raw).toPdf.pageCount ≤ (guideOf (raw ++ addition)).toPdf.pageCount := by
  refine ⟨fun layout more ↦ ⟨layout.continues_append more, layout.pageCount_le_append more⟩, ?_⟩
  intro sanitizer theme fallbackTitle author raw addition guideOf hmeet hblocks
  obtain ⟨more, hlonger⟩ :=
    exists_document_append hmeet sanitizer fallbackTitle author hblocks
  have hguide : guideOf (raw ++ addition) =
      (guideOf raw).append (more.flatMap (ofBlock theme)) := by
    simp only [guideOf, hlonger]
    exact ofDocument_append hblocks theme more
  rw [hguide]
  exact ⟨continues_append _ _, pageCount_le_append _ _⟩

/-- A CR ends the last line already, and the LF after it makes no other line of it. -/
theorem continues_after_cr :
    MeetAtLineEnd "Sol\nLuz\r" "\nAgua" ∧
      (compileWith ⟨[]⟩ defaultTitle "Sol\nLuz\r" []).1.blocks ≠ [] ∧
      Page.Continues (ofDocument .standard (compileWith ⟨[]⟩ defaultTitle "Sol\nLuz\r" []).1).pages
        (ofDocument .standard
          (compileWith ⟨[]⟩ defaultTitle ("Sol\nLuz\r" ++ "\nAgua") []).1).pages := by
  have hmeet : MeetAtLineEnd "Sol\nLuz\r" "\nAgua" := Or.inl ⟨'\r', rfl, by decide⟩
  have hblocks : (compileWith ⟨[]⟩ defaultTitle "Sol\nLuz\r" []).1.blocks ≠ [] := by decide
  exact ⟨hmeet, hblocks,
    (continues_of_more.2 ⟨[]⟩ .standard defaultTitle [] "Sol\nLuz\r" "\nAgua" hmeet hblocks).1⟩

end Layout

end StudyGuide
