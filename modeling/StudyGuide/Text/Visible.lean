import StudyGuide.Bytes

/-!
What a terminal shows of a text. Control characters are not shown, except those that are blanks,
and neither are the sequences that an escape character begins. A sequence ends with its last
letter, and a string inside one ends with a byte or a character of its own; wherever it stands, an
escape character begins a new sequence. A blank inside a sequence is shown, and with it what
follows as far as the next control character, which takes the sequence up again.
-/

set_option autoImplicit false
set_option relaxedAutoImplicit false

namespace StudyGuide.Text

/-- Where a text is in a control sequence. -/
inductive ControlState where
  | outside
  /-- After the escape character. -/
  | escape
  /-- After a sign that follows the escape character. -/
  | escapeSign
  /-- After a bracket, before the letter that ends the sequence. -/
  | parameters
  /-- Before the first parameter of a string for a device. -/
  | deviceStart
  /-- Among the numbers before a string for a device. -/
  | deviceNumber
  /-- Among the signs before a string for a device. -/
  | deviceSign
  /-- In a string that the byte 0x9C ends. -/
  | string
  /-- In a string that a bell ends. -/
  | command
deriving DecidableEq, Repr

namespace ControlState

def isBetween (first last c : Char) : Bool := decide (first ≤ c) && decide (c ≤ last)

def isSign (c : Char) : Bool := isBetween ' ' '/' c

/-- Where the text is after one more character. -/
def after (state : ControlState) (c : Char) : ControlState :=
  if c = '\x1b' then escape
  else if c = '\x18' ∨ c = '\x1a' then outside
  else match state with
    | outside => outside
    | escape =>
      if isSign c then escapeSign
      else if c = '[' then parameters
      else if c = ']' then command
      else if c = 'P' then deviceStart
      else if c = 'X' ∨ c = '^' ∨ c = '_' then string
      else if isBetween '0' '~' c then outside
      else escape
    | escapeSign => if isBetween '0' '~' c then outside else escapeSign
    | parameters => if isBetween '@' '~' c then outside else parameters
    | deviceStart =>
      if isSign c then deviceSign
      else if isBetween '0' '?' c then deviceNumber
      else if isBetween '@' '~' c then string
      else deviceStart
    | deviceNumber =>
      if isSign c then deviceSign
      else if isBetween '<' '~' c then string
      else deviceNumber
    | deviceSign => if isBetween '0' '~' c then string else deviceSign
    | string => if 0x9C ∈ Bytes.ofText [c] then outside else string
    | command => if c = '\x07' then outside else command

end ControlState

open ControlState

/-- Controls that are blanks. -/
def isControlBlank (c : Char) : Bool := c == '\t' || c == '\n' || c == '\x0c' || c == '\r'

/-- Characters that are shown outside of sequences. -/
def isShown (c : Char) : Bool := (decide (' ' ≤ c) && c != '\x7f') || isControlBlank c

/-- Whether a character is shown where it stands. -/
def ControlState.shows : ControlState → Char → Bool
  | outside, c => isShown c
  | escape, c | escapeSign, c | parameters, c => isControlBlank c
  | _, _ => false

/-- What is shown of a text from a state on; `showing` says that the character before is shown. -/
def visibleFrom (state : ControlState) (showing : Bool) : Text → Text
  | [] => []
  | c :: rest =>
    if showing && isShown c then
      c :: visibleFrom (if c.toNat < 128 then state else outside) true rest
    else if state.shows c then c :: visibleFrom (state.after c) true rest
    else visibleFrom (state.after c) false rest

/-- The characters of a text that a terminal shows. -/
def visible (text : Text) : Text := visibleFrom outside false text

end StudyGuide.Text
