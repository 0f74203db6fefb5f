import StudyGuide.Text.Basic
import StudyGuide.Text.Composed.Table

/-!
The composed form of a text. A letter with marks can often be written as one character or as
several, and texts that look the same have one composed form: characters are taken apart, the
marks behind a letter are put in the order of their classes, and then each mark that touches its
letter joins it. Characters that repeat another one as it is are no matter of this module.
-/

set_option autoImplicit false
set_option relaxedAutoImplicit false

namespace StudyGuide.Text

namespace Composed

/-- A character that is the same as two in a row. -/
structure Whole where
  whole : Char
  first : Char
  second : Char
deriving DecidableEq, Repr

def Joins.wholesOf (row : Joins) : List Whole :=
  row.letters.toList.zipWith (fun letter whole ↦ ⟨whole, letter, Char.ofNat row.mark⟩)
    row.wholes.toList

/-- The characters that are the same as two, those of Hangul aside. -/
def wholes : List Whole := joins.flatMap Joins.wholesOf

/-! ### Hangul

A syllable is a leading consonant with a vowel, or these and a trailing consonant. Syllables are
in the order of their parts, so that parts are digits of a number. -/

def firstSyllable : Nat := 0xAC00

def leadingCount : Nat := 19

def vowelCount : Nat := 21

/-- How many syllables begin alike; the first of them has no trailing consonant. -/
def trailingCount : Nat := 28

def firstLeading : Nat := 0x1100

def firstVowel : Nat := 0x1161

/-- The code before the first trailing consonant. -/
def noTrailing : Nat := 0x11A7

def syllableCount : Nat := leadingCount * vowelCount * trailingCount

/-- The two parts of the syllable with a number. -/
def syllableHalves (number : Nat) : Char × Char :=
  if number % trailingCount = 0 then
    let pair := number / trailingCount
    (Char.ofNat (firstLeading + pair / vowelCount), Char.ofNat (firstVowel + pair % vowelCount))
  else
    (Char.ofNat (firstSyllable + (number - number % trailingCount)),
      Char.ofNat (noTrailing + number % trailingCount))

/-- The syllable that two neighbours make. -/
def syllable? (first second : Nat) : Option Char :=
  let leading := first - firstLeading
  let vowel := second - firstVowel
  let number := first - firstSyllable
  let trailing := second - noTrailing
  if firstLeading ≤ first ∧ leading < leadingCount ∧ firstVowel ≤ second ∧ vowel < vowelCount then
    some (Char.ofNat (firstSyllable + (leading * vowelCount + vowel) * trailingCount))
  else if firstSyllable ≤ first ∧ number < syllableCount ∧ number % trailingCount = 0 ∧
      noTrailing < second ∧ trailing < trailingCount then
    some (Char.ofNat (first + trailing))
  else none

/-! ### Taking apart and joining -/

/-- The two characters that a character is the same as. -/
def halves? (c : Char) : Option (Char × Char) :=
  let number := c.toNat - firstSyllable
  if c.toNat < 128 then none
  else if firstSyllable ≤ c.toNat ∧ number < syllableCount then some (syllableHalves number)
  else (wholes.find? (·.whole == c)).map fun row ↦ (row.first, row.second)

/-- The character that is the same as two neighbours. -/
def joined? (first second : Char) : Option Char :=
  if second.toNat < 128 then none
  else (syllable? first.toNat second.toNat).or
    ((wholes.find? fun row ↦ row.second == second && row.first == first).map (·.whole))

/-- How often a character can be taken apart. -/
def depth : Nat := 3

/-- A character taken apart as far as it can be; only first halves have halves of their own. -/
def apart : Nat → Char → Text
  | 0, c => [c]
  | depth + 1, c =>
    match halves? c with
    | none => [c]
    | some (first, second) => apart depth first ++ [second]

/-- The class of a mark; zero for characters that are none. -/
def markClass (c : Char) : Nat :=
  if c.toNat < 0x0300 then 0
  else ((markClasses.find? fun (_, ranges) ↦ CodeRange.covers ranges c).map (·.1)).getD 0

/-- A character with its class. -/
structure Classed where
  char : Char
  rank : Nat

def Classed.of (c : Char) : Classed := ⟨c, markClass c⟩

/-- Puts a character in front of a text, behind the marks there of lower classes. -/
def place (c : Classed) : List Classed → List Classed
  | [] => [c]
  | d :: rest => if 0 < d.rank ∧ d.rank < c.rank then d :: place c rest else c :: d :: rest

/-- The text with the marks between two other characters in the order of their classes. -/
def ordered (text : List Classed) : List Classed := text.foldr place []

/-- Whether a character touches the letter in front of it: a mark that stays between them keeps off
those of its own class and of lower ones. -/
def touches (kept : List Classed) (c : Classed) : Bool :=
  match kept with
  | [] => true
  | last :: _ => decide (last.rank < c.rank)

/-- Joins what follows a letter to it; `kept` are the marks that stay behind it, in reverse. -/
def joinedFrom (letter : Char) (kept : List Classed) : List Classed → Text
  | [] => letter :: kept.reverse.map (·.char)
  | c :: rest =>
    match if touches kept c then joined? letter c.char else none with
    | some whole => joinedFrom whole kept rest
    | none =>
      if c.rank = 0 then letter :: kept.reverse.map (·.char) ++ joinedFrom c.char [] rest
      else joinedFrom letter (c :: kept) rest

end Composed

open Composed

def composed (text : Text) : Text :=
  match ordered ((text.flatMap (apart depth)).map Classed.of) with
  | [] => []
  | c :: rest => joinedFrom c.char [] rest

end StudyGuide.Text
