import StudyGuide.Text.Casing

/-!
Cleaning the answer of a model. Invisible characters and the markers of emphasis go, then each
line is trimmed, and lines that are blank, fence code or address the reader are dropped.

The markers go before the lines are judged, so that a cleaned line is judged as it would be if it
were cleaned again.
-/

set_option autoImplicit false
set_option relaxedAutoImplicit false

namespace StudyGuide

/-- What marks a line as chatter: any of these texts in its lower case. -/
structure Sanitizer where
  markers : List Text
deriving DecidableEq, Repr

namespace Sanitizer

def defaultMarkers : List Text := ["analizado"]

/-- Markers are compared in lower case and without outer blanks; one that is blank would match
every line and is left out. -/
def ofMarkers (markers : List Text) : Sanitizer where
  markers := (markers.map fun marker ↦ Text.lowercase (Text.trim marker)).filter (· ≠ [])

instance : Inhabited Sanitizer := ⟨ofMarkers defaultMarkers⟩

/-- Zero-width space, joiners, word joiner, byte order mark and soft hyphen. -/
def isInvisible (c : Char) : Bool :=
  c ∈ ['\u200B', '\uFEFF', '\u00AD', '\u200C', '\u200D', '\u2060']

def isEmphasis (c : Char) : Bool := c ∈ ['*', '#', '_']

def removeInvisible (text : Text) : Text := text.filter fun c ↦ !isInvisible c

def stripEmphasis (text : Text) : Text := text.filter fun c ↦ !isEmphasis c

def isFence (line : Text) : Bool := Text.startsWith line ['\x60', '\x60', '\x60']

/-- Whether a line greets, comments or holds one of the markers. -/
def isPreamble (sanitizer : Sanitizer) (line : Text) : Bool :=
  (match line with
    | [] => false
    | c :: _ => c ∈ ['!', '¡', '(']) ||
  sanitizer.markers.any (Text.contains (Text.lowercase line))

/-- The trimmed line, if it carries content. -/
def cleanLine (sanitizer : Sanitizer) (line : Text) : Option Text :=
  let trimmed := Text.trim line
  if trimmed = [] || isFence trimmed || sanitizer.isPreamble trimmed then none else some trimmed

/-- Cleans one line; none if it carries no content. -/
def sanitizeLine (sanitizer : Sanitizer) (line : Text) : Option Text :=
  sanitizer.cleanLine (stripEmphasis (removeInvisible line))

/-- Cleans a whole text. -/
def sanitize (sanitizer : Sanitizer) (text : Text) : Text :=
  let stripped := stripEmphasis (removeInvisible (Text.unifyLineEnds text))
  Text.joinLines ((Text.lines stripped).filterMap sanitizer.cleanLine)

end Sanitizer

end StudyGuide
