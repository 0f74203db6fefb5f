import StudyGuide.Font.Repertoire
import StudyGuide.Style

/-!
Widths of text in the built-in fonts: one table of advance widths, in units of the size, and a
factor for bold. What is measured is what is drawn.
-/

set_option autoImplicit false
set_option relaxedAutoImplicit false

namespace StudyGuide.Font

/-- Capital letters among the drawable characters. -/
def capitalRanges : List CodeRange := [
  ⟨0x41, 0x5A⟩, ⟨0xC0, 0xD6⟩, ⟨0xD8, 0xDE⟩, ⟨0x152, 0x152⟩, ⟨0x160, 0x160⟩, ⟨0x178, 0x178⟩,
  ⟨0x17D, 0x17D⟩]

/-- The other letters among the drawable characters. -/
def smallLetterRanges : List CodeRange := [
  ⟨0x61, 0x7A⟩, ⟨0xAA, 0xAA⟩, ⟨0xB5, 0xB5⟩, ⟨0xBA, 0xBA⟩, ⟨0xDF, 0xF6⟩, ⟨0xF8, 0xFF⟩,
  ⟨0x153, 0x153⟩, ⟨0x161, 0x161⟩, ⟨0x17E, 0x17E⟩, ⟨0x192, 0x192⟩, ⟨0x2C6, 0x2C6⟩]

/-- The advance width of a drawable character in the regular font. -/
def regularWidth (c : Char) : Length :=
  if c = ' ' then 0.278
  else if c ∈ ['i', 'j', 'l', '\x27', '|'] then 0.222
  else if c ∈ ['.', ',', ':', ';', '!', '¡', 'í', 'ì', 'ï'] then 0.278
  else if c ∈ ['f', 't', 'I', '(', ')', '[', ']', '/', '-', 'r'] then 0.333
  else if c ∈ ['m', 'M'] then 0.833
  else if c = 'w' then 0.722
  else if c = 'W' then 0.944
  else if c = '—' then 1.0
  else if c.isDigit then 0.556
  else if CodeRange.covers capitalRanges c then 0.70
  else if CodeRange.covers smallLetterRanges c then 0.556
  else 0.584

def charWidth (bold : Bool) (c : Char) : Length :=
  if bold then regularWidth c * 1.06 else regularWidth c

/-- Widths are added from left to right, and the sum is scaled to the size. -/
def textWidth (style : TextStyle) (text : Text) : Length :=
  ((drawable text).map (charWidth style.bold)).foldl (· + ·) 0 * style.size

end StudyGuide.Font
