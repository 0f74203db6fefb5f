import StudyGuide.Text.Visible

/-!
Text for a terminal: styles, which stand in the text as control sequences, and lines.
-/

set_option autoImplicit false
set_option relaxedAutoImplicit false

namespace StudyGuide.Command

/-- Text in styles of the terminal, by the numbers of the styles. -/
def styled (styles : List Nat) (text : Text) : Text :=
  (styles.flatMap fun style ↦ '\x1b' :: '[' :: Text.ofNat style ++ ['m']) ++ text ++ "\x1b[0m"

def bold (text : Text) : Text := styled [1] text

def dim (text : Text) : Text := styled [2] text

def boldRed (text : Text) : Text := styled [1, 31] text

def green (text : Text) : Text := styled [32] text

def yellow (text : Text) : Text := styled [33] text

def cyan (text : Text) : Text := styled [36] text

/-- Lines as they are printed, each with its end. -/
def printed (lines : List Text) : Text := lines.flatMap fun line ↦ line ++ ['\n']

end StudyGuide.Command
