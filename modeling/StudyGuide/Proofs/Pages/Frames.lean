import Mathlib.Logic.Basic
import StudyGuide.Proofs.Pages.LinePages
import StudyGuide.Proofs.Pages.PageParts

/-!
Rules and boxes across pages. A block that has begun to draw its lines is open: the flow has noted
where it begins on the page in hand. Each further line either fits, and then nothing is painted,
or the block paints its rule or box on the page that it leaves and goes on at the top of the next
one (`Flow.Framed.line`). What a run of lines does is put together from these two cases, page by
page (`Flow.Framed.trans`): one rule or box on each page that is left, from where the block begins
there to the cursor under its last line there, and none on the page that is in hand at the end,
where the block paints when it ends.
-/

set_option autoImplicit false
set_option relaxedAutoImplicit false

namespace StudyGuide

/-! ### Cursors -/

/-- Where the next line may begin. -/
def PlacedLine.bottom (placed : PlacedLine) : Length := placed.top - placed.line.height

/-- The cursor under the last of some lines, or where it was if there are none. -/
def cursorUnder (start : Length) (lines : List PlacedLine) : Length :=
  (lines.getLast?.map PlacedLine.bottom).getD start

theorem cursorUnder_append (start : Length) (first second : List PlacedLine) :
    cursorUnder start (first ++ second) = cursorUnder (cursorUnder start first) second := by
  unfold cursorUnder
  rw [List.getLast?_append]
  cases second.getLast? <;> rfl

theorem cursorUnder_of_getLast? {lines : List PlacedLine} {last : PlacedLine}
    (h : lines.getLast? = some last) (start : Length) :
    cursorUnder start lines = last.bottom := by
  rw [cursorUnder, h]
  rfl

namespace Setting

/-- What a block paints where it leaves a page or ends, from where it begins there to the cursor. -/
def frame (sheet : Sheet) (setting : Setting) (top cursor : Length) : List Shape :=
  match setting with
  | .header => []
  | .text rule => Flow.ruleShapes sheet rule top cursor
  | .box look => Flow.boxShapes sheet look top (cursor - look.padding)

/-- The top of the first line that a block has on a page it goes on to. -/
def entry (sheet : Sheet) (setting : Setting) : Length :=
  match setting with
  | .header | .text _ => sheet.setup.top
  | .box look => sheet.setup.top - look.padding

end Setting

namespace Flow

variable {sheet : Sheet} {setting : Setting} {top : Length}

/-! ### A line of an open block -/

/-- The next page, after the block has painted on the one that it leaves. -/
def goOn (sheet : Sheet) (setting : Setting) (top : Length) (flow : Flow) : Flow :=
  { newPage sheet (flow.paint (setting.frame sheet top flow.y)) with
    y := setting.entry sheet
    atTop := false
    fragmentTop := some sheet.setup.top }

theorem ready_of_open_of_fits {flow : Flow} (hopen : flow.fragmentTop = some top) {line : Line}
    (hfits : ¬lineEnd setting line flow.y < sheet.setup.bottom) :
    openText setting (turnPage sheet setting line flow) = flow := by
  rw [turnPage_of_fits hfits]
  cases setting with
  | header | box => rfl
  | text rule =>
    cases flow
    simp only at hopen
    simp [openText, hopen]

/-- A text has its new page marked as blank still, which makes no difference to the line. -/
theorem exists_ready_of_open_of_full (hsetting : setting ≠ .header) {flow : Flow}
    (hopen : flow.fragmentTop = some top) (htop : flow.atTop = false) {line : Line}
    (hfull : lineEnd setting line flow.y < sheet.setup.bottom) :
    ∃ mark, openText setting (turnPage sheet setting line flow) =
      { goOn sheet setting top flow with atTop := mark } := by
  have hover : overflows sheet setting line flow = true := decide_eq_true hfull
  cases setting with
  | header => contradiction
  | text rule =>
    rw [turnPage, hover, htop, paintRule, hopen]
    exact ⟨true, rfl⟩
  | box look =>
    rw [turnPage, hover, paintBox, hopen]
    exact ⟨false, rfl⟩

theorem pageAt_draw (line : Line) (flow : Flow) (page : Nat) :
    pageAt sheet (draw line flow) page = (pageAt sheet flow page).extend []
      (if flow.finished.length = page then [⟨line, flow.y⟩] else []) := by
  have hstays : (draw line flow).finished = flow.finished := rfl
  rw [pageAt_of_stays hstays]
  split_ifs with hlast
  · rw [← hlast, pageAt_last]
    simp [draw, Page.extend, PlacedLine.runs]
  · exact (Page.extend_nil _).symm

theorem pageAt_paint (shapes : List Shape) (flow : Flow) (page : Nat) :
    pageAt sheet (flow.paint shapes) page = (pageAt sheet flow page).extend
      (if flow.finished.length = page then shapes else []) [] := by
  have hstays : (flow.paint shapes).finished = flow.finished := rfl
  rw [pageAt_of_stays hstays]
  split_ifs with hlast
  · rw [← hlast, pageAt_last]
    simp [paint, Page.extend]
  · exact (Page.extend_nil _).symm

/-- The pages are those of a new page after the painting, whatever is noted about the cursor. -/
theorem pageAt_goOn (flow : Flow) (page : Nat) :
    pageAt sheet (goOn sheet setting top flow) page = (pageAt sheet flow page).extend
      (if flow.finished.length = page then setting.frame sheet top flow.y else []) [] := by
  have hsame : pageAt sheet (goOn sheet setting top flow) page =
      pageAt sheet (newPage sheet (flow.paint (setting.frame sheet top flow.y))) page := rfl
  rw [hsame, pageAt_newPage, pageAt_paint]

theorem length_finished_goOn (flow : Flow) :
    (goOn sheet setting top flow).finished.length = flow.finished.length + 1 := by
  simp [goOn, newPage, paint]

/-! ### Lines of an open block -/

/-- Where a block begins on a page: where it did on its first page, and at the top of the others. -/
def frameTop (sheet : Sheet) (before : Flow) (top : Length) (page : Nat) : Length :=
  if page = before.finished.length then top else sheet.setup.top

/-- From one flow to another an open block draws the lines `own`, page by page. Where the cursor
comes to `reach` on a page that is left, the block paints what it has there. -/
structure Framed (sheet : Sheet) (setting : Setting) (top : Length) (before after : Flow)
    (own : Nat → List PlacedLine) (reach : Nat → Length) : Prop where
  le : before.finished.length ≤ after.finished.length
  page_eq : ∀ page, pageAt sheet after page = (pageAt sheet before page).extend
    (if before.finished.length ≤ page ∧ page < after.finished.length then
      setting.frame sheet (frameTop sheet before top page) (reach page) else []) (own page)
  open_eq : after.fragmentTop = some (frameTop sheet before top after.finished.length)
  atTop_eq : after.atTop = false
  y_eq : after.y = reach after.finished.length
  outside : ∀ page, page < before.finished.length ∨ after.finished.length < page → own page = []
  begins : ∀ page, before.finished.length < page → page ≤ after.finished.length →
    ∃ first more, own page = first :: more ∧ first.top = setting.entry sheet

namespace Framed

variable {before middle after : Flow} {own more : Nat → List PlacedLine}
  {reach further : Nat → Length}

/-- Only the pages that the block is on matter. -/
theorem congr (h : Framed sheet setting top before after own reach)
    (hreach : ∀ page, before.finished.length ≤ page → page ≤ after.finished.length →
      reach page = further page) : Framed sheet setting top before after own further where
  le := h.le
  page_eq page := by
    rw [h.page_eq page]
    split_ifs with hleft
    · rw [hreach page hleft.1 (Nat.le_of_lt hleft.2)]
    · rfl
  open_eq := h.open_eq
  atTop_eq := h.atTop_eq
  y_eq := h.y_eq.trans (hreach _ h.le (Nat.le_refl _))
  outside := h.outside
  begins := h.begins

/-- A cursor of an open block that draws nothing yet. -/
theorem refl (hopen : before.fragmentTop = some top) (htop : before.atTop = false) :
    Framed sheet setting top before before (fun _ ↦ []) (fun _ ↦ before.y) where
  le := Nat.le_refl _
  page_eq page := by
    rw [if_neg (by omega), Page.extend_nil]
  open_eq := by rw [hopen, frameTop, if_pos rfl]
  atTop_eq := htop
  y_eq := rfl
  outside _ _ := rfl
  begins page hlater hlast := absurd hlast (Nat.not_le.mpr hlater)

/-- One after the other. The cursor may be moved between the two. -/
theorem trans {between : Flow} (h : Framed sheet setting top before middle own reach)
    (hfinished : between.finished = middle.finished) (hpage : between.page = middle.page)
    (hnext : Framed sheet setting (frameTop sheet before top middle.finished.length) between after
      more further) :
    Framed sheet setting top before after (fun page ↦ own page ++ more page)
      (fun page ↦ if page < middle.finished.length then reach page else further page) := by
  have hlength : between.finished.length = middle.finished.length := by rw [hfinished]
  have hle := h.le
  have hle' := hlength ▸ hnext.le
  have htop (page : Nat) (hmiddle : middle.finished.length ≤ page) :
      frameTop sheet between (frameTop sheet before top middle.finished.length) page =
        frameTop sheet before top page := by
    by_cases hsame : page = middle.finished.length
    · rw [hsame, ← hlength]
      exact if_pos rfl
    · unfold frameTop
      rw [if_neg (hlength ▸ hsame), if_neg (by omega)]
  refine ⟨Nat.le_trans hle hle', fun page ↦ ?_, ?_, hnext.atTop_eq, ?_, fun page hpage ↦ ?_,
    fun page hlater hlast ↦ ?_⟩
  · have hsame : pageAt sheet between page = pageAt sheet middle page := by
      rw [pageAt, pageAt, pages, pages, hfinished, hpage]
    rw [hnext.page_eq page, hsame, h.page_eq page, Page.extend_extend, hlength]
    congr 1
    by_cases hearly : page < middle.finished.length
    · rw [if_pos hearly, if_neg (by omega : ¬(middle.finished.length ≤ page ∧ _)), List.append_nil]
      exact if_congr (by omega) rfl rfl
    · have hlate : middle.finished.length ≤ page := Nat.le_of_not_lt hearly
      rw [if_neg (by omega : ¬(before.finished.length ≤ page ∧ _)), List.nil_append,
        if_neg hearly, htop page hlate]
      exact if_congr (by omega) rfl rfl
  · rw [hnext.open_eq, htop _ hle']
  · rw [hnext.y_eq, if_neg (Nat.not_lt.mpr hle')]
  · rw [h.outside page (by omega), hnext.outside page (by omega)]
    rfl
  · rcases Nat.lt_or_ge middle.finished.length page with hbeyond | hwithin
    · rw [h.outside page (Or.inr hbeyond)]
      exact hnext.begins page (hlength ▸ hbeyond) hlast
    · obtain ⟨first, rest, hown, hentry⟩ := h.begins page hlater hwithin
      exact ⟨first, rest ++ more page, by rw [hown, List.cons_append], hentry⟩

end Framed

/-- The cursor under the lines that a block has on a page. -/
def reachOn (sheet : Sheet) (setting : Setting) (before : Flow) (own : Nat → List PlacedLine)
    (page : Nat) : Length :=
  cursorUnder (if page = before.finished.length then before.y else setting.entry sheet) (own page)

theorem reachOn_of_getLast? {before : Flow} {own : Nat → List PlacedLine} {page : Nat}
    {last : PlacedLine} (h : (own page).getLast? = some last) :
    reachOn sheet setting before own page = last.bottom := cursorUnder_of_getLast? h _

/-- A line that fits stays on the page, and nothing is painted. -/
theorem Framed.drawn (sheet : Sheet) {flow : Flow} (hopen : flow.fragmentTop = some top)
    (line : Line) :
    let own := fun page ↦ if flow.finished.length = page then [⟨line, flow.y⟩] else []
    Framed sheet setting top flow (draw line flow) own (reachOn sheet setting flow own) := by
  intro own
  have hlength : (draw line flow).finished.length = flow.finished.length := rfl
  refine ⟨Nat.le_refl _, fun page ↦ ?_, ?_, rfl, ?_, fun page hpage ↦ ?_,
    fun page hlater hlast ↦ ?_⟩
  · have hnone : ¬(flow.finished.length ≤ page ∧ page < flow.finished.length) := by omega
    rw [pageAt_draw, hlength, if_neg hnone]
  · rw [hlength, frameTop, if_pos rfl, ← hopen]
    rfl
  · have hown : own flow.finished.length = [⟨line, flow.y⟩] := if_pos rfl
    rw [reachOn, hlength, hown]
    rfl
  · exact if_neg (by omega)
  · omega

/-- With a line that does not fit, the block paints on the page in hand and goes on to the next. -/
theorem Framed.wentOn (sheet : Sheet) (setting : Setting) (top : Length) (flow : Flow)
    (line : Line) :
    let own := fun page ↦
      if flow.finished.length + 1 = page then [⟨line, setting.entry sheet⟩] else []
    Framed sheet setting top flow (draw line (goOn sheet setting top flow)) own
      (reachOn sheet setting flow own) := by
  intro own
  have hlength : (draw line (goOn sheet setting top flow)).finished.length =
      flow.finished.length + 1 := length_finished_goOn flow
  refine ⟨by omega, fun page ↦ ?_, ?_, rfl, ?_, fun page hpage ↦ ?_, fun page hlater hlast ↦ ?_⟩
  · rw [pageAt_draw, pageAt_goOn, Page.extend_extend, hlength, length_finished_goOn,
      List.append_nil, List.nil_append]
    congr 1
    by_cases hleft : flow.finished.length = page
    · have hown : own page = [] := if_neg (by omega)
      rw [if_pos hleft, if_pos (by omega), frameTop, if_pos hleft.symm, reachOn,
        if_pos hleft.symm, hown]
      rfl
    · rw [if_neg hleft, if_neg (by omega)]
  · rw [frameTop, if_neg (by omega)]
    rfl
  · have hown : own (flow.finished.length + 1) = [⟨line, setting.entry sheet⟩] := if_pos rfl
    rw [hlength, reachOn, hown]
    rfl
  · exact if_neg (by omega)
  · obtain rfl : page = flow.finished.length + 1 := by omega
    exact ⟨_, [], if_pos rfl, rfl⟩

/-- A line stays on the page, or the block goes on to the next page with it. -/
theorem Framed.line (sheet : Sheet) (hsetting : setting ≠ .header) {flow : Flow}
    (hopen : flow.fragmentTop = some top) (htop : flow.atTop = false) (line : Line) :
    let own := fun page ↦ linesOn sheet page flow [.line setting line]
    Framed sheet setting top flow (placeLine sheet setting line flow) own
      (reachOn sheet setting flow own) := by
  intro own
  let ready := openText setting (turnPage sheet setting line flow)
  have hplace : placeLine sheet setting line flow = draw line ready := rfl
  have hown : own = fun page ↦ if ready.finished.length = page then [⟨line, ready.y⟩] else [] :=
    funext fun page ↦ List.append_nil _
  by_cases hfull : lineEnd setting line flow.y < sheet.setup.bottom
  · obtain ⟨mark, hready⟩ := exists_ready_of_open_of_full hsetting hopen htop hfull
    have hdrawn : draw line ready = draw line (goOn sheet setting top flow) :=
      Eq.trans (congrArg (draw line) hready) rfl
    have hlength : ready.finished.length = flow.finished.length + 1 :=
      (congrArg (·.finished.length) hready).trans (length_finished_goOn flow)
    have hentry : ready.y = setting.entry sheet := congrArg Flow.y hready
    rw [hown, hplace, hdrawn, hlength, hentry]
    exact Framed.wentOn sheet setting top flow line
  · have hready : ready = flow := ready_of_open_of_fits hopen hfull
    rw [hown, hplace, hready]
    exact Framed.drawn sheet hopen line

/-- Lines after lines, with nothing between them. -/
theorem Framed.append {before middle after : Flow} {own more : Nat → List PlacedLine}
    (h : Framed sheet setting top before middle own (reachOn sheet setting before own))
    (hnext : Framed sheet setting (frameTop sheet before top middle.finished.length) middle after
      more (reachOn sheet setting middle more)) :
    Framed sheet setting top before after (fun page ↦ own page ++ more page)
      (reachOn sheet setting before fun page ↦ own page ++ more page) := by
  refine (h.trans rfl rfl hnext).congr fun page hfirst hlast ↦ ?_
  have hle := h.le
  rcases Nat.lt_trichotomy page middle.finished.length with hearly | rfl | hlate
  · rw [if_pos hearly, reachOn, reachOn, hnext.outside page (Or.inl hearly), List.append_nil]
  · rw [if_neg (Nat.lt_irrefl _), reachOn, if_pos rfl, h.y_eq, reachOn, reachOn, cursorUnder_append]
  · rw [if_neg (Nat.not_lt.mpr (Nat.le_of_lt hlate)), reachOn, reachOn,
      h.outside page (Or.inr hlate), List.nil_append, if_neg (Nat.ne_of_gt hlate),
      if_neg (by omega)]

/-- The lines of an open block. -/
theorem framed_lines (sheet : Sheet) (hsetting : setting ≠ .header) {flow : Flow}
    (hopen : flow.fragmentTop = some top) (htop : flow.atTop = false) (lines : List Line) :
    let own := fun page ↦ linesOn sheet page flow (lines.map (.line setting))
    Framed sheet setting top flow (run sheet flow (lines.map (.line setting))) own
      (reachOn sheet setting flow own) := by
  induction lines generalizing flow top with
  | nil =>
    refine (Framed.refl hopen htop).congr fun page hfirst hlast ↦ ?_
    rw [reachOn, if_pos (Nat.le_antisymm hlast hfirst)]
    rfl
  | cons line rest ih =>
    intro own
    have hline := Framed.line sheet hsetting hopen htop line
    have hrest := ih hline.open_eq hline.atTop_eq
    have hown : own = fun page ↦ linesOn sheet page flow [.line setting line] ++
        linesOn sheet page (placeLine sheet setting line flow) (rest.map (.line setting)) :=
      funext fun page ↦ linesOn_append page [.line setting line] (rest.map (.line setting))
    rw [hown]
    exact hline.append hrest

/-- Where the block ends, it paints on the page in hand what it would paint if it left it. -/
theorem Framed.closed {before after last : Flow} {own : Nat → List PlacedLine}
    {reach : Nat → Length} (h : Framed sheet setting top before after own reach)
    (hlast : ∀ page, pageAt sheet last page = (pageAt sheet after page).extend
      (if after.finished.length = page then
        setting.frame sheet (frameTop sheet before top after.finished.length) after.y else []) [])
    (page : Nat) :
    pageAt sheet last page = (pageAt sheet before page).extend
      (if before.finished.length ≤ page ∧ page ≤ after.finished.length then
        setting.frame sheet (frameTop sheet before top page) (reach page) else []) (own page) := by
  have hle := h.le
  rw [hlast page, h.page_eq page, Page.extend_extend, List.append_nil]
  congr 1
  by_cases hend : after.finished.length = page
  · rw [if_pos hend, if_neg (by omega), if_pos (by omega), List.nil_append, h.y_eq, hend]
  · rw [if_neg hend, List.append_nil]
    exact if_congr (by omega) rfl rfl

end Flow

end StudyGuide
