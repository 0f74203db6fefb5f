import StudyGuide.Layout
import StudyGuide.Page

/-!
The flow of lines over pages. A flow is the pages so far and a cursor that moves down the last of
them; the steps of a layout move the cursor, place lines and paint behind them. A line that would
cross the bottom margin starts a new page first, and a block that leaves a page paints its rule or
box there before it goes.
-/

set_option autoImplicit false
set_option relaxedAutoImplicit false

namespace StudyGuide

/-- An empty page: its measures and what its footer draws. -/
structure Sheet where
  setup : PageSetup
  footer : List TextRun

namespace Sheet

/-- The footer is the first line of its text, at the same place on every page. -/
def footerRuns (setup : PageSetup) (footer : Footer) : List TextRun :=
  let width := setup.contentWidth
  ((Wrap.wrap footer.style width footer.text).take 1).map fun line ↦
    .of line footer.style (setup.margin + Line.alignOffset footer.style width line)
      setup.footerOffset

def ofLayout (layout : Layout) : Sheet where
  setup := layout.page
  footer := footerRuns layout.page layout.footer

def blank (sheet : Sheet) : Page where
  shapes := []
  runs := sheet.footer

end Sheet

/-- What a box paints, and how far its text keeps from its edges. -/
structure BoxLook where
  fill : Option Rgb
  border : Option Border
  padding : Length

/-- The kind of block that a line stands in. -/
inductive Setting where
  | header
  | text (rule : Option Border)
  | box (look : BoxLook)

inductive Step where
  /-- Moves the cursor down. -/
  | gap (height : Length)
  /-- Moves the cursor down to the bottom margin at most, and not at the top of a page. -/
  | space (height : Length)
  /-- Starts a new page unless so much room is left. -/
  | keep (height : Length)
  | line (setting : Setting) (line : Line)
  /-- Draws the rule under the header. -/
  | headerRule (color : Rgb) (spaceAfter : Length)
  | openBox (look : BoxLook)
  | closeBox (look : BoxLook)
  | closeText (rule : Option Border)

structure Flow where
  /-- The pages that are left, in order. -/
  finished : List Page
  page : Page
  /-- The number of the page, from one. -/
  pageNumber : Nat
  /-- Top of the next line, from the lower edge. -/
  y : Length
  /-- Nothing but the footer stands on the page. -/
  atTop : Bool
  /-- Where the block in hand begins on this page. -/
  fragmentTop : Option Length

namespace Flow

def start (sheet : Sheet) : Flow where
  finished := []
  page := sheet.blank
  pageNumber := 1
  y := sheet.setup.top
  atTop := true
  fragmentTop := none

def pages (flow : Flow) : List Page := flow.finished ++ [flow.page]

def paint (flow : Flow) (shapes : List Shape) : Flow :=
  { flow with page := { flow.page with shapes := flow.page.shapes ++ shapes } }

def moveDown (flow : Flow) (height : Length) : Flow := { flow with y := flow.y - height }

def newPage (sheet : Sheet) (flow : Flow) : Flow where
  finished := flow.finished ++ [flow.page]
  page := sheet.blank
  pageNumber := flow.pageNumber + 1
  y := sheet.setup.top
  atTop := true
  fragmentTop := none

/-! ### What a block paints -/

def ruleShapes (sheet : Sheet) (rule : Option Border) (top bottom : Length) : List Shape :=
  match rule with
  | none => []
  | some border => [.area border.color sheet.setup.margin bottom border.width (top - bottom)]

/-- The box of one page; a box without height is not painted. -/
def boxShapes (sheet : Sheet) (look : BoxLook) (top bottom : Length) : List Shape :=
  let left := sheet.setup.margin
  let width := sheet.setup.contentWidth
  let height := top - bottom
  if height ≤ 0 then []
  else
    (match look.fill with
      | none => []
      | some fill => [.area fill left bottom width height]) ++
    (match look.border with
      | none => []
      | some border =>
        if border.leftOnly then [.area border.color left bottom border.width height]
        else [.outline border left bottom (left + width) top])

/-- Paints the rule of a text from where it begins on the page to the cursor. -/
def paintRule (sheet : Sheet) (rule : Option Border) (flow : Flow) : Flow :=
  match flow.fragmentTop with
  | none => flow
  | some top => flow.paint (ruleShapes sheet rule top flow.y)

/-- Paints the box of a callout from where it begins on the page to `bottom`. -/
def paintBox (sheet : Sheet) (look : BoxLook) (bottom : Length) (flow : Flow) : Flow :=
  match flow.fragmentTop with
  | none => flow
  | some top => flow.paint (boxShapes sheet look top bottom)

/-! ### Steps -/

def openBox (look : BoxLook) (flow : Flow) : Flow :=
  { flow with y := flow.y - look.padding, atTop := false, fragmentTop := some flow.y }

/-- Where the text of a line, or the box around it, would end. -/
def lineEnd (setting : Setting) (line : Line) (y : Length) : Length :=
  match setting with
  | .box look => y - line.height - look.padding
  | .header | .text _ => y - line.height

def overflows (sheet : Sheet) (setting : Setting) (line : Line) (flow : Flow) : Bool :=
  decide (lineEnd setting line flow.y < sheet.setup.bottom)

/-- Goes to a new page if the line does not fit on this one. A text stays where nothing stands
yet, since a new page has no more room. -/
def turnPage (sheet : Sheet) (setting : Setting) (line : Line) (flow : Flow) : Flow :=
  if !overflows sheet setting line flow then flow
  else match setting with
    | .header => newPage sheet flow
    | .text rule => if flow.atTop then flow else newPage sheet (paintRule sheet rule flow)
    | .box look =>
      openBox look (newPage sheet (paintBox sheet look (flow.y - look.padding) flow))

/-- Notes where a text begins on the page. -/
def openText (setting : Setting) (flow : Flow) : Flow :=
  match setting with
  | .text _ => { flow with fragmentTop := some (flow.fragmentTop.getD flow.y) }
  | .header | .box _ => flow

/-- Draws a line at the cursor. -/
def draw (line : Line) (flow : Flow) : Flow :=
  { flow with
    page := { flow.page with runs := flow.page.runs ++ line.runs flow.y }
    y := flow.y - line.height
    atTop := false }

def placeLine (sheet : Sheet) (setting : Setting) (line : Line) (flow : Flow) : Flow :=
  draw line (openText setting (turnPage sheet setting line flow))

def headerRule (sheet : Sheet) (color : Rgb) (spaceAfter : Length) (flow : Flow) : Flow :=
  let setup := sheet.setup
  let flow := if flow.y - 1 < setup.bottom then newPage sheet flow else flow
  { flow.paint [.area color setup.margin (flow.y - 1) setup.contentWidth 1] with
    y := Length.larger (flow.y - spaceAfter) setup.bottom
    atTop := false }

def step (sheet : Sheet) (flow : Flow) : Step → Flow
  | .gap height => flow.moveDown height
  | .space height =>
    if flow.atTop then flow
    else { flow with y := Length.larger (flow.y - height) sheet.setup.bottom }
  | .keep height =>
    if !flow.atTop && decide (flow.y - height < sheet.setup.bottom) then newPage sheet flow
    else flow
  | .line setting line => placeLine sheet setting line flow
  | .headerRule color spaceAfter => headerRule sheet color spaceAfter flow
  | .openBox look => openBox look flow
  | .closeBox look =>
    let flow := flow.moveDown look.padding
    { paintBox sheet look flow.y flow with fragmentTop := none }
  | .closeText rule => { paintRule sheet rule flow with fragmentTop := none }

def run (sheet : Sheet) (flow : Flow) (steps : List Step) : Flow := steps.foldl (step sheet) flow

theorem run_append (sheet : Sheet) (flow : Flow) (first second : List Step) :
    run sheet flow (first ++ second) = run sheet (run sheet flow first) second :=
  List.foldl_append

end Flow

end StudyGuide
