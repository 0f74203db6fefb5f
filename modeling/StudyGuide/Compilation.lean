import StudyGuide.Document
import StudyGuide.Sanitizer
import StudyGuide.Tag

/-!
From the answer of a model to a document. The first line that is not blank is the title, and each
later line is cleaned and classified by itself; lines that carry nothing leave no block, and the
others keep their order.
-/

set_option autoImplicit false
set_option relaxedAutoImplicit false

namespace StudyGuide

def defaultTitle : Text := "Guía de Aprendizaje"

namespace Compilation

/-- The first line that is not blank, and the lines after it. -/
def splitLines : List Text → Option Text × List Text
  | [] => (none, [])
  | line :: rest => if Text.trim line = [] then splitLines rest else (some line, rest)

/-- A title line without its markers of emphasis; none if nothing is left. -/
def titleOf? (line : Text) : Option Text :=
  let title := Text.trim (Sanitizer.stripEmphasis (Text.trim line))
  if title = [] then none else some title

/-- The title, if there is one, and the lines of the body. -/
def splitTitle (raw : Text) : Option Text × List Text :=
  let (line, body) := splitLines (Text.lines (Text.unifyLineEnds raw))
  (line.bind titleOf?, body)

/-- What a compilation did with the lines of the body. -/
structure Report where
  bodyLines : Nat
  blocks : Nat
  droppedLines : Nat
  /-- The title is the default one. -/
  usesDefaultTitle : Bool
deriving DecidableEq, Repr

/-- The block of one line of the body. -/
def blockOf? (sanitizer : Sanitizer) (line : Text) : Option Block :=
  (sanitizer.sanitizeLine line).bind Tag.classify

def compileWith (sanitizer : Sanitizer) (fallbackTitle raw author : Text) : Document × Report :=
  let (title, body) := splitTitle raw
  let blocks := body.filterMap (blockOf? sanitizer)
  ({ title := title.getD fallbackTitle, author, blocks },
    { bodyLines := body.length
      blocks := blocks.length
      droppedLines := body.length - blocks.length
      usesDefaultTitle := title.isNone })

/-- Compiles with the default title and markers. -/
def compile (raw author : Text) : Document :=
  (compileWith default defaultTitle raw author).1

end Compilation

end StudyGuide
