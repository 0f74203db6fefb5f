import StudyGuide.Length

/-!
Colours and the styles of text and borders.
-/

set_option autoImplicit false
set_option relaxedAutoImplicit false

namespace StudyGuide

structure Rgb where
  red : UInt8
  green : UInt8
  blue : UInt8
deriving DecidableEq, Repr

/-- The colour of a six-digit hexadecimal code. -/
def Rgb.ofCode (code : Nat) : Rgb :=
  ⟨(code / 0x10000).toUInt8, (code / 0x100).toUInt8, code.toUInt8⟩

inductive Align where
  | left
  | center
  | justify
deriving DecidableEq, Repr

structure TextStyle where
  size : Length
  bold : Bool := false
  italic : Bool := false
  color : Rgb
  align : Align := .left
  /-- Line height as a multiple of the size. -/
  leading : Length := 1.3

def TextStyle.lineHeight (style : TextStyle) : Length := style.size * style.leading

inductive BorderStyle where
  | solid
  | dashed
deriving DecidableEq, Repr

structure Border where
  color : Rgb
  width : Length
  style : BorderStyle
  /-- A rule along the left edge in place of a frame. -/
  leftOnly : Bool

end StudyGuide
