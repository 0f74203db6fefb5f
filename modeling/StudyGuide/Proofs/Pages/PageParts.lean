import StudyGuide.Proofs.Pages.BottomMargin

/-!
What each page is made of. Steps put shapes and lines on pages and take nothing back, so a page
after a run is the page before it, blank if it was not begun, with what the run paints there and
the lines it draws there (`Flow.pageAt_run`). Each line is told with the page it goes to and the
height of its top, from the step that draws it alone.

A page of a layout is put together in this way from what the header and the elements put on it,
one after the other (`Layout.pageAt_flow`).
-/

set_option autoImplicit false
set_option relaxedAutoImplicit false

namespace StudyGuide

namespace Flow

variable {sheet : Sheet} {flow : Flow}

/-! ### Pages by number -/

/-- The page that has so many before it. One that is not begun yet is blank. -/
def pageAt (sheet : Sheet) (flow : Flow) (page : Nat) : Page :=
  flow.pages[page]?.getD sheet.blank

theorem pageAt_of_lt {page : Nat} (h : page < flow.finished.length) :
    pageAt sheet flow page = flow.finished[page]?.getD sheet.blank := by
  rw [pageAt, pages, List.getElem?_append_left h]

theorem pageAt_last (sheet : Sheet) (flow : Flow) :
    pageAt sheet flow flow.finished.length = flow.page := by
  rw [pageAt, pages, List.getElem?_concat_length, Option.getD_some]

theorem pageAt_of_gt {page : Nat} (h : flow.finished.length < page) :
    pageAt sheet flow page = sheet.blank := by
  have hnone : flow.pages[page]? = none := by
    rw [List.getElem?_eq_none_iff, pages, List.length_append, List.length_singleton]
    exact h
  rw [pageAt, hnone, Option.getD_none]

/-- Only the page in hand differs where no page is turned. -/
theorem pageAt_of_stays {before after : Flow} (h : after.finished = before.finished) (page : Nat) :
    pageAt sheet after page =
      if before.finished.length = page then after.page else pageAt sheet before page := by
  rcases Nat.lt_trichotomy page before.finished.length with hlt | rfl | hgt
  · rw [if_neg (Nat.ne_of_gt hlt), pageAt_of_lt (h ▸ hlt), pageAt_of_lt hlt, h]
  · rw [if_pos rfl, ← h, pageAt_last]
  · rw [if_neg (Nat.ne_of_lt hgt), pageAt_of_gt (h ▸ hgt), pageAt_of_gt hgt]

/-- A turned page is left as it then is, and the next one is in hand. -/
theorem pageAt_of_turns {before after : Flow} {left : Page}
    (h : after.finished = before.finished ++ [left]) (page : Nat) :
    pageAt sheet after page =
      if before.finished.length + 1 = page then after.page
      else if before.finished.length = page then left else pageAt sheet before page := by
  have hlength : after.finished.length = before.finished.length + 1 := by simp [h]
  rcases Nat.lt_trichotomy page after.finished.length with hlt | rfl | hgt
  · rw [if_neg (hlength ▸ Nat.ne_of_gt hlt), pageAt_of_lt hlt, h]
    rcases Nat.lt_or_eq_of_le (Nat.le_of_lt_succ (hlength ▸ hlt)) with hearlier | rfl
    · rw [if_neg (Nat.ne_of_gt hearlier), pageAt_of_lt hearlier, List.getElem?_append_left hearlier]
    · rw [if_pos rfl, List.getElem?_concat_length, Option.getD_some]
  · rw [if_pos hlength.symm, pageAt_last]
  · rw [if_neg (hlength ▸ Nat.ne_of_lt hgt), if_neg (by omega), pageAt_of_gt hgt,
      pageAt_of_gt (by omega)]

/-- A new page is blank, and the others are as they were. -/
theorem pageAt_newPage (page : Nat) :
    pageAt sheet (newPage sheet flow) page = pageAt sheet flow page := by
  have hturns : (newPage sheet flow).finished = flow.finished ++ [flow.page] := rfl
  rw [pageAt_of_turns hturns page]
  split_ifs with hnext hlast
  · rw [pageAt_of_gt (by omega)]
    rfl
  · rw [← hlast, pageAt_last]
  · rfl

/-! ### What a run adds -/

/-- The lines of the steps that are drawn on a page. -/
def linesOn (sheet : Sheet) (page : Nat) (flow : Flow) : List Step → List PlacedLine
  | [] => []
  | step :: rest =>
    let after := Flow.step sheet flow step
    (if after.finished.length = page then placed sheet flow step else []) ++
      linesOn sheet page after rest

theorem linesOn_append (page : Nat) (first second : List Step) :
    linesOn sheet page flow (first ++ second) =
      linesOn sheet page flow first ++ linesOn sheet page (run sheet flow first) second := by
  induction first generalizing flow with
  | nil => rfl
  | cons step rest ih =>
    rw [List.cons_append, linesOn, linesOn, ih, List.append_assoc]
    rfl

/-- What is painted on a page between one flow and a later one. -/
def paintedOn (sheet : Sheet) (page : Nat) (before after : Flow) : List Shape :=
  (pageAt sheet after page).shapes.drop (pageAt sheet before page).shapes.length

theorem paintedOn_eq {before after : Flow} {page : Nat} {shapes : List Shape}
    {placed : List PlacedLine}
    (h : pageAt sheet after page = (pageAt sheet before page).extend shapes placed) :
    paintedOn sheet page before after = shapes := by
  rw [paintedOn, h]
  exact List.drop_left

theorem exists_pageAt_of_advances {placed : List PlacedLine} {before after : Flow}
    (h : Advances sheet placed before after) (page : Nat) :
    ∃ shapes, pageAt sheet after page = (pageAt sheet before page).extend shapes
      (if after.finished.length = page then placed else []) := by
  cases h with
  | stays shapes hfinished hnumber hpage =>
    rw [pageAt_of_stays hfinished page, hfinished]
    split_ifs with hlast
    · rw [← hlast, pageAt_last, hpage]
      exact ⟨shapes, rfl⟩
    · exact ⟨[], (Page.extend_nil _).symm⟩
  | turns left shapes hfinished hnumber hpage =>
    have hlength : after.finished.length = before.finished.length + 1 := by simp [hfinished]
    rw [pageAt_of_turns hfinished page, hlength]
    split_ifs with hnext hlast
    · rw [pageAt_of_gt (by omega), hpage]
      exact ⟨shapes, rfl⟩
    · rw [← hlast, pageAt_last]
      exact ⟨left, rfl⟩
    · exact ⟨[], (Page.extend_nil _).symm⟩

/-- What is on a page after a run was there before it or is added by it. -/
theorem pageAt_run (sheet : Sheet) (page : Nat) (flow : Flow) (steps : List Step) :
    pageAt sheet (run sheet flow steps) page =
      (pageAt sheet flow page).extend (paintedOn sheet page flow (run sheet flow steps))
        (linesOn sheet page flow steps) := by
  have hadded : ∃ shapes, pageAt sheet (run sheet flow steps) page =
      (pageAt sheet flow page).extend shapes (linesOn sheet page flow steps) := by
    induction steps generalizing flow with
    | nil => exact ⟨[], (Page.extend_nil _).symm⟩
    | cons step rest ih =>
      obtain ⟨first, hfirst⟩ := exists_pageAt_of_advances (advances_step sheet flow step) page
      obtain ⟨second, hsecond⟩ := ih (Flow.step sheet flow step)
      refine ⟨first ++ second, ?_⟩
      rw [linesOn, ← Page.extend_extend, ← hfirst]
      exact hsecond
  obtain ⟨shapes, hshapes⟩ := hadded
  rw [paintedOn_eq hshapes]
  exact hshapes

end Flow

/-! ### Layouts -/

namespace Layout

variable (layout : Layout)

/-- The lines of an element that are drawn on a page. -/
def linesFor (count page : Nat) : List PlacedLine :=
  Flow.linesOn (Sheet.ofLayout layout) page (layout.flowAfter count)
    (layout.elements[count]?.toList.flatMap (Step.ofElement layout.page))

/-- What is painted on a page while an element is laid out. -/
def paintedFor (count page : Nat) : List Shape :=
  Flow.paintedOn (Sheet.ofLayout layout) page (layout.flowAfter count)
    (layout.flowAfter (count + 1))

theorem flowAfter_add_one (count : Nat) :
    layout.flowAfter (count + 1) = Flow.run (Sheet.ofLayout layout) (layout.flowAfter count)
      (layout.elements[count]?.toList.flatMap (Step.ofElement layout.page)) := by
  unfold flowAfter
  dsimp only
  rw [List.take_add_one, List.flatMap_append, ← List.append_assoc, Flow.run_append]

/-- What is on a page after some elements, by element. -/
theorem pageAt_flowAfter (count page : Nat) :
    let sheet := Sheet.ofLayout layout
    Flow.pageAt sheet (layout.flowAfter count) page =
      (Flow.pageAt sheet (layout.flowAfter 0) page).extend
        ((List.range count).flatMap (layout.paintedFor · page))
        ((List.range count).flatMap (layout.linesFor · page)) := by
  intro sheet
  induction count with
  | zero => exact (Page.extend_nil _).symm
  | succ count ih =>
    have hadded := Flow.pageAt_run sheet page (layout.flowAfter count)
      (layout.elements[count]?.toList.flatMap (Step.ofElement layout.page))
    rw [← flowAfter_add_one] at hadded
    rw [hadded, ih, Page.extend_extend, List.range_succ, List.flatMap_append, List.flatMap_append,
      List.flatMap_singleton, List.flatMap_singleton]
    rfl

/-- A page of the layout is what the header leaves there, with what each element puts on it. -/
theorem pageAt_flow (page : Nat) :
    let sheet := Sheet.ofLayout layout
    let elements := List.range layout.elements.length
    Flow.pageAt sheet layout.flow page =
      (Flow.pageAt sheet (layout.flowAfter 0) page).extend
        (elements.flatMap (layout.paintedFor · page))
        (elements.flatMap (layout.linesFor · page)) := by
  intro sheet elements
  have hflow : layout.flow = layout.flowAfter layout.elements.length := by
    rw [flow, flowAfter, List.take_length]
    rfl
  rw [hflow, pageAt_flowAfter]

end Layout

end StudyGuide
