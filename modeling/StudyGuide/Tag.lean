import StudyGuide.Block
import StudyGuide.Text.Casing

/-!
The tags of a guide's lines. A line is tagged by a keyword, in any case, that the line ends after
or that a colon follows; what comes after the colon is the text of the block. Any other line is a
paragraph.
-/

set_option autoImplicit false
set_option relaxedAutoImplicit false

namespace StudyGuide.Tag

def keywords : List (Text × BlockKind) := [
  ("SECCIÓN", .heading), ("CONTEXTO", .contextNote), ("ANALOGÍA", .analogyNote),
  ("PREGUNTA", .challengeQuestion), ("RETO", .challengeQuestion), ("NOTA", .warning)]

/-- Whether an upper-case line is the keyword, or goes on with a colon after it. -/
def opens (keyword line : Text) : Bool :=
  match Text.dropStart? line keyword with
  | none => false
  | some rest =>
    match Text.trimStart rest with
    | [] => true
    | c :: _ => c == ':'

/-- The kind that the keyword of a trimmed line stands for. -/
def kind? (line : Text) : Option BlockKind :=
  (keywords.find? fun (keyword, _) ↦ opens keyword (Text.uppercase line)).map (·.2)

/-- What follows the first colon, trimmed; the whole line if that is nothing. -/
def payload (line : Text) : Text :=
  match Text.splitFirst ':' line with
  | some (_, after) => if Text.trim after = [] then line else Text.trim after
  | none => line

/-- The block that a line stands for; a blank line stands for none. -/
def classify (line : Text) : Option Block :=
  let trimmed := Text.trim line
  if trimmed = [] then none
  else match kind? trimmed with
    | some kind => some ⟨kind, payload trimmed⟩
    | none => some ⟨.paragraph, trimmed⟩

end StudyGuide.Tag
