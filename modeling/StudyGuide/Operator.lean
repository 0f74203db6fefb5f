import StudyGuide.Page

/-!
The operators that draw a page. Coordinates are the lengths that the page shows; sizes, line
widths and colours are used as they are.
-/

set_option autoImplicit false
set_option relaxedAutoImplicit false

namespace StudyGuide

inductive Font.Face where
  | regular
  | bold
  | oblique
  | boldOblique
deriving DecidableEq, Repr

namespace Font.Face

def all : List Face := [regular, bold, oblique, boldOblique]

def name : Face → Text
  | regular => "Helvetica"
  | bold => "Helvetica-Bold"
  | oblique => "Helvetica-Oblique"
  | boldOblique => "Helvetica-BoldOblique"

def ofStyle (style : TextStyle) : Face :=
  match style.bold, style.italic with
  | false, false => regular
  | true, false => bold
  | false, true => oblique
  | true, true => boldOblique

end Font.Face

inductive Operator where
  | fillColor (red green blue : Float32)
  | strokeColor (red green blue : Float32)
  | lineWidth (width : Length)
  /-- Adds a rectangle to the path. -/
  | rectangle (left lower width height : Length)
  | fill
  | stroke
  /-- Dashes of four units with gaps of three, or none. -/
  | dash (on : Bool)
  | text (face : Font.Face) (size x baseline : Length) (bytes : List UInt8)

namespace Operator

/-- A colour channel on the scale from 0 to 1. -/
def channel (value : UInt8) : Float32 := Float32.ofNat value.toNat / 255

def fillWith (color : Rgb) : Operator :=
  .fillColor (channel color.red) (channel color.green) (channel color.blue)

def strokeWith (color : Rgb) : Operator :=
  .strokeColor (channel color.red) (channel color.green) (channel color.blue)

/-- The rectangle between two corners. -/
def between (left lower right upper : Length) : Operator :=
  let left := left.onPage
  let lower := lower.onPage
  .rectangle left lower (right.onPage - left) (upper.onPage - lower)

def ofShape : Shape → List Operator
  | .area color left lower width height =>
    [fillWith color, between left lower (left + width) (lower + height), .fill]
  | .outline border left lower right upper =>
    let outline := [between left lower right upper, .stroke]
    [strokeWith border.color, .lineWidth border.width] ++
      match border.style with
      | .solid => outline
      | .dashed => .dash true :: outline ++ [.dash false]

def ofRun (run : TextRun) : List Operator := [
  fillWith run.style.color,
  .text (.ofStyle run.style) run.style.size run.x.onPage run.baseline.onPage
    (Font.textBytes run.text)]

end Operator

namespace Page

def shapeOperators (page : Page) : List Operator := page.shapes.flatMap Operator.ofShape

def textOperators (page : Page) : List Operator := page.runs.flatMap Operator.ofRun

end Page

end StudyGuide
