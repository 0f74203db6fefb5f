import StudyGuide.Text.Joining.Table
import StudyGuide.Text.Composed

/-!
Joiners, which ask for a joined or an unjoined form of the characters around them. A joiner is
seen only behind a mark that takes the vowel of a letter away; the one that keeps letters apart
also between two letters that would join.
-/

set_option autoImplicit false
set_option relaxedAutoImplicit false

namespace StudyGuide.Text.Joining

/-- Keeps letters apart. -/
def separator : Char := '\u200C'

def joiner : Char := '\u200D'

/-- The class of the marks that take the vowel of a letter away. -/
def vowelKillers : Nat := 9

/-- The first character that is no mark is among those of the ranges. -/
def reaches (ranges : List CodeRange) (text : Text) : Bool :=
  (text.dropWhile (CodeRange.covers transparentRanges)).head?.any (CodeRange.covers ranges)

/-- A character is seen between `before`, kept in reverse, and `after`. -/
def isSeen (before : Text) (c : Char) (after : Text) : Bool :=
  (c != separator && c != joiner) ||
    before.head?.any (fun last ↦ Composed.markClass last = vowelKillers) ||
    (c == separator && reaches forwardRanges before && reaches backwardRanges after)

/-- Every joiner of the text that follows `before` is seen. -/
def areSeen (before : Text) : Text → Bool
  | [] => true
  | c :: rest => isSeen before c rest && areSeen (c :: before) rest

end StudyGuide.Text.Joining
