import StudyGuide.Document
import StudyGuide.Text.Casing
import StudyGuide.Theme

/-!
The layout of a document: a header, a footer and a flat stream of styled elements, without page
breaks. Each kind of block has one look, which the theme gives.
-/

set_option autoImplicit false
set_option relaxedAutoImplicit false

namespace StudyGuide

/-- A text with its own style, optionally beside a rule. -/
structure TextBlock where
  text : Text
  style : TextStyle
  /-- Indent from the edge of the content. -/
  indent : Length
  rule : Option Border
  spaceAfter : Length
  /-- Height of what has to follow on the same page. -/
  keepWithNext : Length

/-- A box with a caption over its body. -/
structure Callout where
  caption : Text
  captionStyle : TextStyle
  body : Text
  bodyStyle : TextStyle
  fill : Option Rgb
  border : Option Border
  padding : Length
  spaceBefore : Length
  spaceAfter : Length

inductive Element where
  /-- A gap, which the top of a page swallows. -/
  | spacer (height : Length)
  | text (block : TextBlock)
  | callout (callout : Callout)

structure Header where
  title : Text
  titleStyle : TextStyle
  subtitle : Text
  subtitleStyle : TextStyle
  ruleColor : Rgb
  spaceAfter : Length

structure Footer where
  text : Text
  style : TextStyle

structure Layout where
  page : PageSetup
  header : Header
  footer : Footer
  elements : List Element

namespace Layout

def paragraph (theme : Theme) (text : Text) : Element :=
  .text
    { text, style := theme.bodyStyle, indent := 0, rule := none
      spaceAfter := theme.blockGap, keepWithNext := 0 }

/-- The label of a section in capitals. It asks for the room of one line of body text after it. -/
def heading (theme : Theme) (label : Text) : List Element := [
  .spacer theme.headingSpaceBefore,
  .text
    { text := Text.uppercase label, style := theme.headingStyle, indent := 0, rule := none
      spaceAfter := theme.headingSpaceAfter
      keepWithNext := theme.headingSpaceAfter + theme.bodyStyle.lineHeight }]

def contextNote (theme : Theme) (body : Text) : Element :=
  .callout
    { caption := theme.contextCaption, captionStyle := theme.contextCaptionStyle
      body, bodyStyle := theme.contextBodyStyle
      fill := some theme.contextFill
      border := some { color := theme.contextRule, width := 3, style := .solid, leftOnly := true }
      padding := theme.boxPadding, spaceBefore := 0, spaceAfter := 15 }

def challengeQuestion (theme : Theme) (body : Text) : Element :=
  .callout
    { caption := theme.challengeCaption, captionStyle := theme.challengeCaptionStyle
      body, bodyStyle := theme.challengeBodyStyle
      fill := some theme.challengeFill
      border := some
        { color := theme.challengeBorder, width := 1, style := .dashed, leftOnly := false }
      padding := theme.boxPadding, spaceBefore := 10, spaceAfter := theme.blockGap }

def analogyNote (theme : Theme) (text : Text) : Element :=
  .text
    { text := theme.analogyPrefix ++ ' ' :: text, style := theme.analogyStyle
      indent := theme.analogyIndent
      rule := some { color := theme.analogyRule, width := 2, style := .solid, leftOnly := true }
      spaceAfter := 15, keepWithNext := 0 }

def warning (theme : Theme) (text : Text) : Element :=
  .text
    { text := theme.warningPrefix ++ ' ' :: text, style := theme.warningStyle
      indent := 0, rule := none, spaceAfter := theme.blockGap, keepWithNext := 0 }

def ofBlock (theme : Theme) (block : Block) : List Element :=
  match block.kind with
  | .heading => heading theme block.text
  | .contextNote => [contextNote theme block.text]
  | .analogyNote => [analogyNote theme block.text]
  | .challengeQuestion => [challengeQuestion theme block.text]
  | .warning => [warning theme block.text]
  | .paragraph => [paragraph theme block.text]

/-- The elements of a document; a document without blocks shows the placeholder. -/
def elementsOf (theme : Theme) : List Block → List Element
  | [] => [paragraph theme theme.placeholder]
  | blocks => blocks.flatMap (ofBlock theme)

def headerOf (theme : Theme) (doc : Document) : Header where
  title := doc.title
  titleStyle := theme.titleStyle
  subtitle := Text.replace Theme.authorMark (Text.uppercase doc.author) theme.subtitleTemplate
  subtitleStyle := theme.subtitleStyle
  ruleColor := theme.headerRule
  spaceAfter := 35

def ofDocument (theme : Theme) (doc : Document) : Layout where
  page := theme.page
  header := headerOf theme doc
  footer := { text := theme.footer, style := theme.footerStyle }
  elements := elementsOf theme doc.blocks

end Layout

end StudyGuide
