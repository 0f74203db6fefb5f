import StudyGuide.Font.Metrics

/-!
Breaking text into lines. A line takes words as long as it fits; a word that is wider than a line
by itself is broken between characters, and its last piece begins the next line.
-/

set_option autoImplicit false
set_option relaxedAutoImplicit false

namespace StudyGuide.Wrap

open Font

/-- A line with one more word. -/
def extend (line word : Text) : Text := if line = [] then word else line ++ ' ' :: word

/-- The full pieces of an overlong word whose first characters `piece` are taken already, and
the piece that is left. -/
def breakWord (style : TextStyle) (width : Length) (piece : Text) : Text → List Text × Text
  | [] => ([], piece)
  | c :: rest =>
    let longer := piece ++ [c]
    if textWidth style longer > width ∧ longer.length > 1 then
      let (pieces, last) := breakWord style width [c] rest
      (piece :: pieces, last)
    else breakWord style width longer rest

/-- The line as a list, unless it is empty. -/
def finished (line : Text) : List Text := if line = [] then [] else [line]

/-- The lines of the words, the first of them begun with `line`. -/
def wrapWords (style : TextStyle) (width : Length) (line : Text) : List Text → List Text
  | [] => finished line
  | word :: rest =>
    if textWidth style (extend line word) ≤ width then
      wrapWords style width (extend line word) rest
    else if textWidth style word ≤ width then
      finished line ++ wrapWords style width word rest
    else
      let (pieces, last) := breakWord style width [] word
      finished line ++ pieces ++ wrapWords style width last rest

/-- The lines of a text; a text without words has one empty line. -/
def wrap (style : TextStyle) (width : Length) (text : Text) : List Text :=
  match wrapWords style width [] (Text.words text) with
  | [] => [[]]
  | lines => lines

end StudyGuide.Wrap
