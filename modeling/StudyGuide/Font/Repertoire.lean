import StudyGuide.Text.Basic

/-!
The characters that the built-in fonts can draw, and what stands in for the others. Blanks become
spaces, a few signs have a plain relative, the marks that join or vary signs vanish, and anything
else becomes a question mark.
-/

set_option autoImplicit false
set_option relaxedAutoImplicit false

namespace StudyGuide.Font

/-- Characters of the code page beyond Latin-1, with their bytes. -/
def extraCodes : List (Char × UInt8) := [
  ('€', 0x80), ('‚', 0x82), ('ƒ', 0x83), ('„', 0x84), ('…', 0x85), ('†', 0x86), ('‡', 0x87),
  ('ˆ', 0x88), ('‰', 0x89), ('Š', 0x8A), ('‹', 0x8B), ('Œ', 0x8C), ('Ž', 0x8E), ('‘', 0x91),
  ('’', 0x92), ('“', 0x93), ('”', 0x94), ('•', 0x95), ('–', 0x96), ('—', 0x97), ('˜', 0x98),
  ('™', 0x99), ('š', 0x9A), ('›', 0x9B), ('œ', 0x9C), ('ž', 0x9E), ('Ÿ', 0x9F)]

def plainRanges : List CodeRange := [⟨0x20, 0x7E⟩, ⟨0xA0, 0xFF⟩]

def isDrawable (c : Char) : Bool :=
  CodeRange.covers plainRanges c || extraCodes.any (·.1 == c)

/-- What is drawn for a character. -/
def drawn (c : Char) : Text :=
  if c ∈ ['\uFE0F', '\uFE0E', '\u200D'] then []
  else if c = '💡' then ['*']
  else if c = '⚠' then ['!']
  else if c ∈ ['❓', '❔'] then ['?']
  else if c ∈ ['✅', '✔'] then ['+']
  else if isDrawable c then [c]
  else if Text.isBlank c then [' ']
  else ['?']

def drawable (text : Text) : Text := text.flatMap drawn

/-- The bytes of a drawable character. A no-break space is written as a space, a soft hyphen not
at all, and a bullet at the code that the built-in encoding keeps for it. -/
def charBytes (c : Char) : List UInt8 :=
  if c = '\u00A0' then [0x20]
  else if c = '\u00AD' then []
  else if c = '•' then [0x7F]
  else match extraCodes.find? (·.1 == c) with
    | some (_, byte) => [byte]
    | none => [c.toNat.toUInt8]

def textBytes (text : Text) : List UInt8 := text.flatMap charBytes

end StudyGuide.Font
