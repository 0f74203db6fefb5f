import StudyGuide.Theme
import StudyGuide.Wrap

/-!
A page as it is drawn: shapes behind and runs of text in front. A line of text is one run, unless
it is stretched to its width, when each word is a run of its own.
-/

set_option autoImplicit false
set_option relaxedAutoImplicit false

namespace StudyGuide

open Font

/-- Text drawn in one piece, in drawable characters. -/
structure TextRun where
  text : Text
  style : TextStyle
  x : Length
  baseline : Length

def TextRun.of (text : Text) (style : TextStyle) (x baseline : Length) : TextRun :=
  { text := drawable text, style, x, baseline }

inductive Shape where
  /-- A filled rectangle, by its lower left corner. -/
  | area (color : Rgb) (left lower width height : Length)
  /-- The outline of a rectangle, by two corners. -/
  | outline (border : Border) (left lower right upper : Length)

structure Page where
  shapes : List Shape
  runs : List TextRun

/-- One line of wrapped text and the room it stands in. -/
structure Line where
  text : Text
  style : TextStyle
  x : Length
  width : Length
  /-- Whether a justified line is stretched; the last line of a text is not. -/
  stretch : Bool

namespace Line

def height (line : Line) : Length := line.style.lineHeight

/-- The baseline of a line whose top is at `y`. -/
def baseline (line : Line) (y : Length) : Length :=
  y - (line.height - line.style.size) / 2 - line.style.size * 0.8

def alignOffset (style : TextStyle) (width : Length) (text : Text) : Length :=
  match style.align with
  | .center => Length.larger ((width - textWidth style text) / 2) 0
  | .left | .justify => 0

/-- The words of a line, each from where the one before it and a gap end. -/
def spread (style : TextStyle) (gap baseline x : Length) : List Text → List TextRun
  | [] => []
  | word :: rest =>
    .of word style x baseline :: spread style gap baseline (x + (textWidth style word + gap)) rest

/-- The gap between the words of a stretched line. A single word, a line that is full already and
one that would be torn apart are not stretched. -/
def stretchGap? (line : Line) (words : List Text) : Option Length :=
  if words.length < 2 ∨ textWidth line.style line.text ≥ line.width then none
  else
    let wordsWidth := (words.map (textWidth line.style)).foldl (· + ·) 0
    let gap := (line.width - wordsWidth) / Float32.ofNat (words.length - 1)
    if gap > line.style.size * 1.5 then none else some gap

def stretched (line : Line) (baseline : Length) : List TextRun :=
  let words := (Text.splitAt ' ' line.text).filter (· ≠ [])
  match line.stretchGap? words with
  | none => [.of line.text line.style line.x baseline]
  | some gap => spread line.style gap baseline line.x words

/-- What draws the line when its top is at `y`. -/
def runs (line : Line) (y : Length) : List TextRun :=
  let baseline := line.baseline y
  if line.style.align = .justify ∧ line.stretch then line.stretched baseline
  else
    [.of line.text line.style (line.x + alignOffset line.style line.width line.text) baseline]

/-- The lines of one text; with `stretch` all but the last may be stretched. -/
def ofTexts (style : TextStyle) (x width : Length) (stretch : Bool) : List Text → List Line
  | [] => []
  | [text] => [{ text, style, x, width, stretch := false }]
  | text :: rest => { text, style, x, width, stretch } :: ofTexts style x width stretch rest

def wrapped (style : TextStyle) (x width : Length) (stretch : Bool) (text : Text) : List Line :=
  ofTexts style x width stretch (Wrap.wrap style width text)

end Line

end StudyGuide
