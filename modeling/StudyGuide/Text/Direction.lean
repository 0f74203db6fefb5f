import StudyGuide.Text.Basic
import StudyGuide.Text.Direction.Table

/-!
The direction in which characters are written, and texts in which one direction is beyond doubt: a
reader who meets such a text between others sees the same characters in the same order whatever
the direction of the others.
-/

set_option autoImplicit false
set_option relaxedAutoImplicit false

namespace StudyGuide.Text

inductive Direction where
  /-- Letters of scripts that run from left to right. -/
  | rightward
  /-- Letters of scripts that run from right to left. -/
  | leftward
  | digit
  | arabicDigit
  /-- Signs, which take the direction of what is around them. -/
  | neutral
  /-- Marks, which take that of the character before them. -/
  | attached
deriving DecidableEq, Repr

namespace Direction

def ofChar (c : Char) : Direction :=
  if c.toNat < 128 then
    if c.isAlpha then .rightward else if c.isDigit then .digit else .neutral
  else if CodeRange.covers leftwardRanges c then .leftward
  else if CodeRange.covers attachedRanges c then .attached
  else if CodeRange.covers neutralRanges c then .neutral
  else if CodeRange.covers digitRanges c then .digit
  else if CodeRange.covers arabicDigitRanges c then .arabicDigit
  else .rightward

/-- What makes a text one in which directions matter. -/
def runsLeft (d : Direction) : Bool := d = .leftward || d = .arabicDigit

/-- The last direction that is not that of a mark. -/
def ending? (directions : List Direction) : Option Direction :=
  (directions.reverse.dropWhile (· = .attached)).head?

/-- A text begins with a letter, holds no letter of the other direction, and ends in a letter or a
digit; one from right to left holds digits of one kind, one from left to right no Arabic ones. -/
def areClear (directions : List Direction) : Bool :=
  match directions.head? with
  | none => true
  | some .rightward =>
    !directions.any runsLeft && ending? directions ∈ [some .rightward, some .digit]
  | some .leftward =>
    !directions.contains .rightward &&
      !(directions.contains .digit && directions.contains .arabicDigit) &&
      ending? directions ∈ [some .leftward, some .digit, some .arabicDigit]
  | some _ => false

end Direction

end StudyGuide.Text
