import StudyGuide.Flow

/-!
A layout as the steps of a flow, and the pages that come of it.
-/

set_option autoImplicit false
set_option relaxedAutoImplicit false

namespace StudyGuide

namespace Step

def subtitleGap : Length := 6

def headerRuleGap : Length := 15

def captionGap : Length := 3

/-- Lines of the header break pages as body text does, and also at the top of a page. -/
def ofHeader (setup : PageSetup) (header : Header) : List Step :=
  let lines (style : TextStyle) (text : Text) : List Step :=
    (Line.wrapped style setup.margin setup.contentWidth false text).map (.line .header)
  lines header.titleStyle header.title ++ .gap subtitleGap ::
    (lines header.subtitleStyle header.subtitle ++
      [.gap headerRuleGap, .headerRule header.ruleColor header.spaceAfter])

def textLines (setup : PageSetup) (block : TextBlock) : List Line :=
  let ruleWidth := (block.rule.map Border.width).getD 0
  Line.wrapped block.style (setup.margin + ruleWidth + block.indent)
    (setup.contentWidth - ruleWidth - block.indent) true block.text

/-- A text that asks for what follows it first finds room for all its lines and that. -/
def ofText (setup : PageSetup) (block : TextBlock) : List Step :=
  let lines := textLines setup block
  let keep : List Step :=
    if block.keepWithNext > 0 then
      [.keep (block.style.lineHeight * Float32.ofNat lines.length + block.keepWithNext)]
    else []
  keep ++ lines.map (.line (.text block.rule)) ++ [.closeText block.rule, .gap block.spaceAfter]

def lookOf (callout : Callout) : BoxLook :=
  { fill := callout.fill, border := callout.border, padding := callout.padding }

def innerWidth (setup : PageSetup) (callout : Callout) : Length :=
  setup.contentWidth - 2 * callout.padding

def captionLines (setup : PageSetup) (callout : Callout) : List Line :=
  Line.wrapped callout.captionStyle (setup.margin + callout.padding) (innerWidth setup callout)
    false callout.caption

def bodyLines (setup : PageSetup) (callout : Callout) : List Line :=
  Line.wrapped callout.bodyStyle (setup.margin + callout.padding) (innerWidth setup callout)
    true callout.body

/-- The room a callout asks for: its caption and one line of its body, with the padding. -/
def calloutHead (setup : PageSetup) (callout : Callout) : Length :=
  let captionHeight := callout.captionStyle.lineHeight
  let bodyHeight := callout.bodyStyle.lineHeight
  callout.padding + captionHeight * Float32.ofNat (captionLines setup callout).length + captionGap +
    Length.smaller bodyHeight (bodyHeight * Float32.ofNat (bodyLines setup callout).length) +
    callout.padding

def ofCallout (setup : PageSetup) (callout : Callout) : List Step :=
  let look := lookOf callout
  [.space callout.spaceBefore, .keep (calloutHead setup callout), .openBox look] ++
    (captionLines setup callout).map (.line (.box look)) ++ .gap captionGap ::
    ((bodyLines setup callout).map (.line (.box look)) ++
      [.closeBox look, .gap callout.spaceAfter])

def ofElement (setup : PageSetup) : Element → List Step
  | .spacer height => [.space height]
  | .text block => ofText setup block
  | .callout callout => ofCallout setup callout

end Step

namespace Layout

def steps (layout : Layout) : List Step :=
  Step.ofHeader layout.page layout.header ++
    layout.elements.flatMap (Step.ofElement layout.page)

def flow (layout : Layout) : Flow :=
  let sheet := Sheet.ofLayout layout
  Flow.run sheet (Flow.start sheet) layout.steps

/-- The pages of a layout; there is always at least one. -/
def pages (layout : Layout) : List Page := layout.flow.pages

end Layout

end StudyGuide
