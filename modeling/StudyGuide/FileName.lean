import StudyGuide.Text.Basic

/-!
The file name of a guide, made from its title. The words of the title are joined by `_` and the
separators of paths become `_`, so that the name is one component of a path; a title that leaves
nothing, or dots alone, gives `guia`.
-/

set_option autoImplicit false
set_option relaxedAutoImplicit false

namespace StudyGuide.FileName

def isSeparator (c : Char) : Bool := c == '/' || c == '\\'

def isDots (text : Text) : Bool := text.all (· == '.')

def withoutSeparators (text : Text) : Text := text.map fun c ↦ if isSeparator c then '_' else c

/-- The name without its extension. -/
def stem (title : Text) : Text :=
  let joined := withoutSeparators (Text.joinWith ['_'] (Text.words title))
  if isDots joined then "guia" else joined

def ofTitle (title : Text) : Text := stem title ++ ".pdf"

end StudyGuide.FileName
