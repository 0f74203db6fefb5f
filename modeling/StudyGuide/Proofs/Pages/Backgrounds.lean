import StudyGuide.Operator
import StudyGuide.Proofs.Pages.BlockFrames

/-!
What stands behind the text of a layout. Between two elements no block is open, so the first line
of a text is where its rule begins (`Layout.fragmentTop_flowAfter`). The rule of a text goes on
each page from the first to the last of the lines that the text has there, and the box of a
callout goes around those of the callout (`Layout.frames_follow_lines`). When a page is drawn,
every shape is one rectangle, filled or outlined (`Page.undashed_shapeOperators`), and dashes are
on for the outlines of dashed boxes and for nothing else (`Operator.dashed_shapeOperators`).
-/

set_option autoImplicit false
set_option relaxedAutoImplicit false

namespace StudyGuide

/-! ### Shapes as they are drawn -/

/-- A shape is one rectangle, between its corners on the page, in its own colour. -/
def Shape.drawing : Shape → List Operator
  | .area color left lower width height => [
    .fillColor (Operator.channel color.red) (Operator.channel color.green)
      (Operator.channel color.blue),
    .rectangle left.onPage lower.onPage ((left + width).onPage - left.onPage)
      ((lower + height).onPage - lower.onPage),
    .fill]
  | .outline border left lower right upper => [
    .strokeColor (Operator.channel border.color.red) (Operator.channel border.color.green)
      (Operator.channel border.color.blue),
    .lineWidth border.width,
    .rectangle left.onPage lower.onPage (right.onPage - left.onPage)
      (upper.onPage - lower.onPage),
    .stroke]

namespace Operator

def isDash : Operator → Bool
  | .dash _ => true
  | _ => false

/-- What is drawn, whether dashes are on or off. -/
def undashed (operators : List Operator) : List Operator :=
  operators.filter fun operator ↦ !operator.isDash

theorem undashed_ofShape (shape : Shape) : undashed (ofShape shape) = shape.drawing := by
  cases shape with
  | area => rfl
  | outline border =>
    rw [ofShape]
    cases border.style <;> rfl

end Operator

theorem Page.undashed_shapeOperators (page : Page) :
    Operator.undashed page.shapeOperators = page.shapes.flatMap Shape.drawing := by
  unfold Page.shapeOperators Operator.undashed
  rw [List.filter_flatMap]
  exact List.flatMap_congr fun shape _ ↦ Operator.undashed_ofShape shape

/-! ### Dashes -/

namespace Operator

/-- The operators that are carried out while dashes are on. -/
def dashed : Bool → List Operator → List Operator
  | _, [] => []
  | _, .dash on :: rest => dashed on rest
  | on, operator :: rest => (if on then [operator] else []) ++ dashed on rest

/-- What draws the outline of a dashed box. -/
def dashedOutline : Shape → List Operator
  | .area .. => []
  | .outline border left lower right upper =>
    match border.style with
    | .solid => []
    | .dashed => [between left lower right upper, .stroke]

theorem dashed_ofShape (shape : Shape) (more : List Operator) :
    dashed false (ofShape shape ++ more) = dashedOutline shape ++ dashed false more := by
  cases shape with
  | area => rfl
  | outline border =>
    rw [ofShape, dashedOutline]
    cases border.style <;> rfl

/-- Each shape leaves dashes off. -/
theorem dashed_shapeOperators (page : Page) (more : List Operator) :
    dashed false (page.shapeOperators ++ more) =
      page.shapes.flatMap dashedOutline ++ dashed false more := by
  unfold Page.shapeOperators
  induction page.shapes with
  | nil => rfl
  | cons shape rest ih =>
    rw [List.flatMap_cons, List.flatMap_cons, List.append_assoc, dashed_ofShape, ih,
      List.append_assoc]

end Operator

/-! ### Between elements -/

namespace Flow

variable {sheet : Sheet} {flow : Flow}

theorem fragmentTop_headerLine (hclosed : flow.fragmentTop = none) (line : Line) :
    (Flow.step sheet flow (.line .header line)).fragmentTop = none := by
  have hdrawn : (Flow.step sheet flow (.line .header line)).fragmentTop =
      (turnPage sheet .header line flow).fragmentTop := rfl
  rw [hdrawn, turnPage]
  split_ifs
  · exact hclosed
  · rfl

theorem fragmentTop_headerLines (hclosed : flow.fragmentTop = none) (lines : List Line) :
    (run sheet flow (lines.map (.line .header))).fragmentTop = none := by
  induction lines generalizing flow with
  | nil => exact hclosed
  | cons line rest ih => exact ih (fragmentTop_headerLine hclosed line)

theorem fragmentTop_headerRule (hclosed : flow.fragmentTop = none) (color : Rgb)
    (spaceAfter : Length) : (headerRule sheet color spaceAfter flow).fragmentTop = none := by
  unfold headerRule
  dsimp only
  split_ifs
  · rfl
  · exact hclosed

theorem fragmentTop_ofHeader (hclosed : flow.fragmentTop = none) (header : Header) :
    (run sheet flow (Step.ofHeader sheet.setup header)).fragmentTop = none := by
  let lines (style : TextStyle) (text : Text) : List Line :=
    Line.wrapped style sheet.setup.margin sheet.setup.contentWidth false text
  let titled := run sheet flow ((lines header.titleStyle header.title).map (.line .header))
  let subtitled := run sheet (titled.moveDown Step.subtitleGap)
    ((lines header.subtitleStyle header.subtitle).map (.line .header))
  have htitled : titled.fragmentTop = none := fragmentTop_headerLines hclosed _
  have hbetween : (titled.moveDown Step.subtitleGap).fragmentTop = none := htitled
  have hsubtitled : (subtitled.moveDown Step.headerRuleGap).fragmentTop = none :=
    fragmentTop_headerLines hbetween _
  have hrun : run sheet flow (Step.ofHeader sheet.setup header) =
      headerRule sheet header.ruleColor header.spaceAfter
        (subtitled.moveDown Step.headerRuleGap) := by
    unfold Step.ofHeader
    rw [run_append]
    exact run_append sheet (titled.moveDown Step.subtitleGap) _ _
  rw [hrun]
  exact fragmentTop_headerRule hsubtitled header.ruleColor header.spaceAfter

theorem fragmentTop_ofElement (hclosed : flow.fragmentTop = none) (element : Element) :
    (run sheet flow (Step.ofElement sheet.setup element)).fragmentTop = none := by
  cases element with
  | spacer height => exact fragmentTop_space hclosed height
  | text block =>
    rw [Step.ofElement, Step.ofText, run_append]
    rfl
  | callout note =>
    rw [Step.ofElement, Box.ofCallout_eq, run_append, run_append, run_append, run_append]
    rfl

end Flow

namespace Layout

theorem fragmentTop_flowAfter (layout : Layout) (count : Nat) :
    (layout.flowAfter count).fragmentTop = none := by
  induction count with
  | zero =>
    rw [flowAfter, List.take_zero, List.flatMap_nil, List.append_nil]
    exact Flow.fragmentTop_ofHeader rfl layout.header
  | succ count ih =>
    rw [flowAfter_add_one]
    cases layout.elements[count]? with
    | none => exact ih
    | some element =>
      rw [Option.toList_some, List.flatMap_singleton]
      exact Flow.fragmentTop_ofElement ih element

/-- Rules and boxes follow their text across pages. Nothing else is painted after the header, what
is painted is drawn shape by shape, and no dashes are left on. -/
theorem frames_follow_lines (layout : Layout) :
    let sheet := Sheet.ofLayout layout
    (∀ count block, layout.elements[count]? = some (.text block) → ∀ page,
      Flow.RuleFollows layout.page block.rule (layout.linesFor count page)
        (layout.paintedFor count page)) ∧
    (∀ count note, layout.elements[count]? = some (.callout note) → ∀ page,
      Flow.Box.Follows sheet note (layout.flowAfter count) page (layout.linesFor count page)
        (layout.paintedFor count page)) ∧
    ∀ page drawn, layout.pages[page]? = some drawn →
      let elements := List.range layout.elements.length
      drawn = (Flow.pageAt sheet (layout.flowAfter 0) page).extend
          (elements.flatMap (layout.paintedFor · page))
          (elements.flatMap (layout.linesFor · page)) ∧
        Operator.undashed drawn.shapeOperators = drawn.shapes.flatMap Shape.drawing ∧
        ∀ more, Operator.dashed false (drawn.shapeOperators ++ more) =
          drawn.shapes.flatMap Operator.dashedOutline ++ Operator.dashed false more := by
  intro sheet
  refine ⟨fun count block hblock page ↦ ?_, fun count note hnote page ↦ ?_,
    fun page drawn hdrawn ↦ ⟨?_, drawn.undashed_shapeOperators,
      Operator.dashed_shapeOperators drawn⟩⟩
  · have hfollows := Flow.ruleFollows_ofText sheet (layout.fragmentTop_flowAfter count) block page
    rw [linesFor, paintedFor, flowAfter_add_one, hblock, Option.toList_some,
      List.flatMap_singleton]
    exact hfollows
  · have hfollows := Flow.Box.follows sheet note (layout.flowAfter count) page
    rw [linesFor, paintedFor, flowAfter_add_one, hnote, Option.toList_some,
      List.flatMap_singleton]
    exact hfollows
  · have hat : Flow.pageAt sheet layout.flow page = drawn := by
      rw [Flow.pageAt, ← pages, hdrawn, Option.getD_some]
    rw [← hat, pageAt_flow]

def tenPoint : TextStyle := { size := 10, color := ⟨0, 0, 0⟩, leading := 1 }

def besideRule : TextBlock where
  text := ['a', ' ', 'b']
  style := tenPoint
  indent := 0
  rule := some { color := ⟨0, 0, 0⟩, width := 1, style := .solid, leftOnly := true }
  spaceAfter := 0
  keepWithNext := 0

def dashedBox : Callout where
  caption := ['c']
  captionStyle := tenPoint
  body := ['d']
  bodyStyle := tenPoint
  fill := none
  border := some { color := ⟨0, 0, 0⟩, width := 1, style := .dashed, leftOnly := false }
  padding := 2
  spaceBefore := 0
  spaceAfter := 0

/-- The first page has room for the header and for one of the two lines of the text. -/
def broken : Layout where
  page := { width := 52, height := 100, margin := 20, footerOffset := 10 }
  header :=
    { title := [], titleStyle := tenPoint, subtitle := [], subtitleStyle := tenPoint
      ruleColor := ⟨0, 0, 0⟩, spaceAfter := 0 }
  footer := { text := [], style := tenPoint }
  elements := [.text besideRule, .callout dashedBox]

/-- The rule of the broken text is beside one line on each of two pages, and on the second of them
the dashed box is around the two lines of the callout. -/
theorem broken_frames :
    broken.elements[0]? = some (.text besideRule) ∧
    broken.elements[1]? = some (.callout dashedBox) ∧
    (∀ page ∈ [0, 1], ∃ line, broken.linesFor 0 page = [line] ∧
      broken.paintedFor 0 page =
        [.area ⟨0, 0, 0⟩ 20 line.bottom 1 (line.top - line.bottom)]) ∧
    (∃ caption body, broken.linesFor 1 1 = [caption, body] ∧
      broken.paintedFor 1 1 =
        [.outline ⟨⟨0, 0, 0⟩, 1, .dashed, false⟩ 20 (body.bottom - 2) 32 (caption.top + 2)]) ∧
    ∃ drawn, broken.pages[1]? = some drawn ∧
      Operator.dashed false (drawn.shapeOperators ++ drawn.textOperators) =
        drawn.shapes.flatMap Operator.dashedOutline ++
          Operator.dashed false drawn.textOperators := by
  obtain ⟨htexts, hcallouts, hpages⟩ := frames_follow_lines broken
  refine ⟨rfl, rfl, fun page hpage ↦ ?_, ?_, ?_⟩
  · have hlines : ∀ page ∈ [0, 1], (broken.linesFor 0 page).length = 1 := by decide +kernel
    obtain ⟨line, hline⟩ := List.length_eq_one_iff.mp (hlines page hpage)
    have hfollows := htexts 0 besideRule rfl page
    rw [hline] at hfollows
    exact ⟨line, hline, hfollows.lines _ rfl line line rfl rfl⟩
  · have hlength : (broken.linesFor 1 1).length = 2 := by decide +kernel
    obtain ⟨caption, body, hlines⟩ := List.length_eq_two.mp hlength
    let sheet := Sheet.ofLayout broken
    let entered := Flow.Box.entered sheet dashedBox (broken.flowAfter 1)
    have hentered : 1 = entered.finished.length := by decide +kernel
    have hbody : ¬(1 = (Flow.Box.underCaption sheet dashedBox
        (broken.flowAfter 1)).finished.length ∧
        Flow.Box.bodyOn sheet dashedBox (broken.flowAfter 1) 1 = []) := by decide +kernel
    have htop : ∀ first ∈ (broken.linesFor 1 1).head?, entered.y = first.top + 2 := by
      decide +kernel
    have htall : ∀ last ∈ (broken.linesFor 1 1).getLast?,
        ¬entered.y - (last.bottom - 2) ≤ 0 := by decide +kernel
    rw [hlines] at htop htall
    have hbox := (hcallouts 1 dashedBox rfl 1).lines body (by rw [hlines]; rfl)
    rw [if_pos hentered, if_neg hbody] at hbox
    refine ⟨caption, body, hlines, (hbox.tall (htall body rfl)).trans ?_⟩
    have hright : broken.page.margin + broken.page.contentWidth = 32 := by decide +kernel
    rw [← htop caption rfl, ← hright]
    rfl
  · have hlength : 1 < broken.pages.length := by decide +kernel
    exact ⟨broken.pages[1], List.getElem?_eq_getElem hlength,
      (hpages 1 _ (List.getElem?_eq_getElem hlength)).2.2 _⟩

end Layout

end StudyGuide
