import StudyGuide.Text.CodeRange

/-!
Text as the list of its characters: blanks, trimming, lines, words and search. A blank is a
character with the Unicode property `White_Space`; lines end at LF once CRLF and CR have
become LF; words are the maximal runs without a blank.
-/

set_option autoImplicit false
set_option relaxedAutoImplicit false

namespace StudyGuide

/-- A text is the list of its characters. -/
abbrev Text := List Char

instance : Coe String Text := ⟨String.toList⟩

namespace Text

/-! ### Blanks -/

def blankRanges : List CodeRange := [
  ⟨0x0009, 0x000D⟩, ⟨0x0020, 0x0020⟩, ⟨0x0085, 0x0085⟩, ⟨0x00A0, 0x00A0⟩, ⟨0x1680, 0x1680⟩,
  ⟨0x2000, 0x200A⟩, ⟨0x2028, 0x2029⟩, ⟨0x202F, 0x202F⟩, ⟨0x205F, 0x205F⟩, ⟨0x3000, 0x3000⟩]

def isBlank (c : Char) : Bool := CodeRange.covers blankRanges c

def trimStart (text : Text) : Text := text.dropWhile isBlank

def trimEnd (text : Text) : Text := (text.reverse.dropWhile isBlank).reverse

def trim (text : Text) : Text := trimEnd (trimStart text)

def isBlankText (text : Text) : Bool := text.all isBlank

/-! ### Lines -/

/-- CRLF and a CR alone become LF. -/
def unifyLineEnds : Text → Text
  | [] => []
  | '\r' :: '\n' :: rest => '\n' :: unifyLineEnds rest
  | c :: rest => (if c = '\r' then '\n' else c) :: unifyLineEnds rest

/-- The lines of a text: LF ends a line, and the LF that ends the text starts no further line. -/
def lines : Text → List Text
  | [] => []
  | c :: rest =>
    if c = '\n' then [] :: lines rest
    else match lines rest with
      | [] => [[c]]
      | line :: more => (c :: line) :: more

/-- Texts with `separator` between each two neighbours. -/
def joinWith (separator : Text) : List Text → Text
  | [] => []
  | [text] => text
  | text :: more => text ++ separator ++ joinWith separator more

def joinLines (lines : List Text) : Text := joinWith ['\n'] lines

/-! ### Words -/

/-- The words of a text; a blank at the front of `rest` ends the word that `partialWord` has
begun, kept in reverse. -/
def wordsFrom (partialWord : Text) : Text → List Text
  | [] => if partialWord = [] then [] else [partialWord.reverse]
  | c :: rest =>
    if isBlank c then
      if partialWord = [] then wordsFrom [] rest else partialWord.reverse :: wordsFrom [] rest
    else wordsFrom (c :: partialWord) rest

/-- The maximal runs of characters that are not blank. -/
def words (text : Text) : List Text := wordsFrom [] text

/-! ### Search -/

def startsWith (text pattern : Text) : Bool := pattern.isPrefixOf text

def contains (text pattern : Text) : Bool :=
  match text with
  | [] => pattern.isPrefixOf []
  | c :: rest => pattern.isPrefixOf (c :: rest) || contains rest pattern

/-- The rest of a text that starts with `pattern`. -/
def dropStart? (text pattern : Text) : Option Text :=
  match pattern, text with
  | [], text => some text
  | _ :: _, [] => none
  | p :: pattern, c :: rest => if p = c then dropStart? rest pattern else none

/-- The texts before and after the first `mark`. -/
def splitFirst (mark : Char) : Text → Option (Text × Text)
  | [] => none
  | c :: rest =>
    if c = mark then some ([], rest)
    else (splitFirst mark rest).map fun (before, after) ↦ (c :: before, after)

/-- The pieces between the marks; there is always one more than there are marks. -/
def splitAt (mark : Char) : Text → List Text
  | [] => [[]]
  | c :: rest =>
    if c = mark then [] :: splitAt mark rest
    else match splitAt mark rest with
      | [] => [[c]]
      | piece :: more => (c :: piece) :: more

/-- Every `pattern`, found from left to right without overlap, becomes `replacement`. `skip`
counts the characters of the last one found that are still to be passed over. -/
def replaceFrom (pattern replacement : Text) (skip : Nat) : Text → Text
  | [] => []
  | c :: rest =>
    match skip with
    | skip + 1 => replaceFrom pattern replacement skip rest
    | 0 =>
      if pattern.isPrefixOf (c :: rest) then
        replacement ++ replaceFrom pattern replacement (pattern.length - 1) rest
      else c :: replaceFrom pattern replacement 0 rest

/-- Replaces every occurrence of a pattern that is not empty. -/
def replace (pattern replacement text : Text) : Text :=
  replaceFrom pattern replacement 0 text

/-! ### Numbers and sizes -/

/-- A natural number in decimal digits. -/
def ofNat (n : Nat) : Text := Nat.toDigits 10 n

/-- An integer in decimal digits, after a minus sign if it is negative. -/
def ofInt : Int → Text
  | .ofNat n => ofNat n
  | .negSucc n => '-' :: ofNat (n + 1)

/-- The number of bytes of the text in UTF-8. -/
def byteLength (text : Text) : Nat := (text.map Char.utf8Size).foldr (· + ·) 0

/-- ASCII letters in lower case; all else stays. -/
def asciiLower (text : Text) : Text := text.map Char.toLower

end Text

end StudyGuide
