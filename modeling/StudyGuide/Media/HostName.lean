import StudyGuide.Media.HostName.Table
import StudyGuide.Text.Casing
import StudyGuide.Text.Direction
import StudyGuide.Text.Joining
import StudyGuide.Text.Punycode

/-!
Names of hosts. A name is a row of labels with dots between them, and is written in ASCII: letters
in lower case, look-alikes of other characters as those, all in composed form, and a label that
still has characters beyond ASCII in Punycode after the mark `xn--`. A label that is already
written so has to be one that would be written so.
-/

set_option autoImplicit false
set_option relaxedAutoImplicit false

namespace StudyGuide.HostName

/-! ### Characters -/

def row? (rows : List Row) (c : Char) : Option Row :=
  rows.find? fun row ↦ decide (row.first ≤ c.toNat) && decide (c.toNat ≤ row.last)

/-- The letter that a character stands for. -/
def letter? (c : Char) : Option Char := do
  let row ← row? letterRows c
  row.images.toList[c.toNat - row.first]?

/-- The word that a character stands for. -/
def word? (c : Char) : Option Text := do
  let row ← row? wordRows c
  (Text.splitAt ' ' row.images)[c.toNat - row.first]?

/-- What a character stands for in a name; none if it may not stand there. -/
def standIn? (c : Char) : Option Text :=
  if c.toNat < 128 then some [c.toLower]
  else match letter? c, word? c with
    | some letter, _ => some [letter]
    | none, some word => some word
    | none, none =>
      if CodeRange.covers vanishingRanges c then some []
      else if CodeRange.covers refusedRanges c then none
      else some (Text.lowerChar c)

/-- Delimiters, blanks and controls of ASCII, which no name contains. -/
def isForbidden (c : Char) : Bool :=
  decide (c.toNat ≤ 0x20) || c == '\x7f' ||
    c ∈ ['#', '/', ':', '<', '>', '?', '@', '[', '\\', ']', '^', '|', '%']

/-! ### Labels -/

/-- A label begins with no mark, and its joiners are seen. -/
def isWellFormed (label : Text) : Bool :=
  !label.head?.any (CodeRange.covers markRanges) && Text.Joining.areSeen [] label

def isPlain (label : Text) : Bool := label.all (·.toNat < 128)

def mark : Text := "xn--"

/-- The longest label that is read after the mark. -/
def longestMarked : Nat := 2000

/-- The longest label that is written after the mark. -/
def longestUnmarked : Nat := 1000

/-- The label would be written after the mark, and stands for itself. -/
def needsMark (label : Text) : Bool :=
  !isPlain label && label.all (fun c ↦ standIn? c == some [c]) && Text.composed label == label

/-- The characters of a label that is written in ASCII, if it is written as it has to be. -/
def unmarked? (digits : Text) : Option Text :=
  if longestMarked < digits.length then none
  else (Text.Punycode.decode? digits).filter needsMark

/-- The characters of a label, whichever way it is written. -/
def characters? (label : Text) : Option Text := do
  let shown ← match Text.dropStart? label mark with
    | some digits => unmarked? digits
    | none => if isPlain label ∨ label.length ≤ longestUnmarked then some label else none
  if isWellFormed shown then some shown else none

/-- A label in ASCII. -/
def writtenLabel (label : Text) : Text :=
  if isPlain label then label else mark ++ Text.Punycode.encode label

/-- The direction of every label is clear, if there are characters that run to the left. -/
def directionsFit (labels : List Text) : Bool :=
  let directions := labels.map fun label ↦ label.map Text.Direction.ofChar
  !directions.any (·.any Text.Direction.runsLeft) || directions.all Text.Direction.areClear

/-- The name written in ASCII, if it may be the name of a host. -/
def written? (name : Text) : Option Text := do
  let plain := Text.composed (← name.mapM standIn?).flatten
  let labels := Text.splitAt '.' plain
  let shown ← labels.mapM characters?
  if plain.any isForbidden ∨ !directionsFit shown then none
  else some (Text.joinWith ['.'] (labels.map writtenLabel))

end StudyGuide.HostName
