import StudyGuide.Text.Basic
import StudyGuide.Text.Quoted.Table

/-!
Texts in quotes, as a description of a value shows them. A quoted text can be read without
guessing: what has no form of its own is shown by an escape.
-/

set_option autoImplicit false
set_option relaxedAutoImplicit false

namespace StudyGuide.Text.Quoted

def hexadecimal (n : Nat) : Text := Nat.toDigits 16 n

/-- Controls of ASCII, and every character beyond it without a visible form of its own. -/
def isInvisible (c : Char) : Bool :=
  if c.toNat < 128 then decide (c.toNat < 32) || c == '\x7f'
  else CodeRange.covers invisibleRanges c

/-- The form of a character inside quotes; a backslash stands before itself and before a quote. -/
def escape (c : Char) : Text :=
  if c = '\x00' then "\\0"
  else if c = '\t' then "\\t"
  else if c = '\r' then "\\r"
  else if c = '\n' then "\\n"
  else if c = '\\' ∨ c = '"' then ['\\', c]
  else if isInvisible c then "\\u\x7b" ++ hexadecimal c.toNat ++ ['\x7d']
  else [c]

def encode (text : Text) : Text := '"' :: text.flatMap escape ++ ['"']

end StudyGuide.Text.Quoted
