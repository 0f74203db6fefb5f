import StudyGuide.Text.Basic
import StudyGuide.Text.Casing.Table

/-!
Upper and lower case of texts by the full Unicode mappings. A character may become several, and
one mapping looks at its neighbours: a capital sigma ends a word as `ς` and stands as `σ`
elsewhere.
-/

set_option autoImplicit false
set_option relaxedAutoImplicit false

namespace StudyGuide.Text

namespace Casing

def Shift.covers (row : Shift) (code : Nat) : Bool :=
  decide (row.first ≤ code) && decide (code ≤ row.last) &&
    decide ((code - row.first) % row.step = 0)

def Shift.target (row : Shift) (code : Nat) : Char :=
  Char.ofNat (Int.toNat ((code : Int) + row.shift))

/-- The image of a character beyond ASCII: an expansion, else a shift, else itself. -/
def mapped (expansions : List (Nat × List Nat)) (shifts : List Shift) (c : Char) : Text :=
  match expansions.find? (·.1 == c.toNat) with
  | some (_, codes) => codes.map Char.ofNat
  | none =>
    match shifts.find? (·.covers c.toNat) with
    | some row => [row.target c.toNat]
    | none => [c]

def isCased (c : Char) : Bool := CodeRange.covers casedRanges c

def isCaseIgnorable (c : Char) : Bool := CodeRange.covers caseIgnorableRanges c

/-- Whether the first character that counts for casing has a case. -/
def nextIsCased (text : Text) : Bool :=
  match text.dropWhile isCaseIgnorable with
  | [] => false
  | c :: _ => isCased c

end Casing

open Casing

def upperChar (c : Char) : Text :=
  if c.toNat < 128 then [c.toUpper] else mapped upperExpansions upperShifts c

def uppercase (text : Text) : Text := text.flatMap upperChar

/-- The lower case of a character by itself, a sigma as inside a word. -/
def lowerChar (c : Char) : Text :=
  if c.toNat < 128 then [c.toLower] else mapped lowerExpansions lowerShifts c

/-- A sigma between `before`, kept in reverse, and `after` ends its word when a character with a
case precedes it and none follows. -/
def endsWord (before after : Text) : Bool := nextIsCased before && !nextIsCased after

/-- Lower case of the text that follows `before`, kept in reverse. -/
def lowerFrom (before : Text) : Text → Text
  | [] => []
  | c :: rest =>
    (if c = 'Σ' then [if endsWord before rest then 'ς' else 'σ'] else lowerChar c) ++
      lowerFrom (c :: before) rest

def lowercase (text : Text) : Text := lowerFrom [] text

/-! ### Folding -/

/-- Characters beyond ASCII that stand for letters of ASCII where case does not matter: the long
s, the Kelvin sign, the sharp s and ligatures. -/
def foldedLetters : List (Char × Text) := [
  ('\u017F', "s"), ('\u212A', "k"), ('\u00DF', "ss"), ('\u1E9E', "ss"), ('\uFB00', "ff"),
  ('\uFB01', "fi"), ('\uFB02', "fl"), ('\uFB03', "ffi"), ('\uFB04', "ffl"), ('\uFB05', "st"),
  ('\uFB06', "st")]

/-- The text for comparisons with lower case of ASCII: letters, and what stands for letters, of
ASCII are in lower case, and all else stays. -/
def asciiFolded (text : Text) : Text :=
  text.flatMap fun c ↦
    match foldedLetters.find? (·.1 == c) with
    | some (_, letters) => letters
    | none => [c.toLower]

end StudyGuide.Text
