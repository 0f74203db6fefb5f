import StudyGuide.Text.Basic

/-!
Texts of any characters written in ASCII: first their ASCII characters and a hyphen, then one
number for each other character. A number says how far the insertion point moves, counted through
all places of all codes in turn. Its digits run from `a` to `z` and from `0` to `9`, the lowest
first, and a digit under the threshold of its place ends it; the thresholds follow the numbers
before.
-/

set_option autoImplicit false
set_option relaxedAutoImplicit false

namespace StudyGuide.Text.Punycode

def base : Nat := 36

/-- The least code that is written as a number. -/
def firstCode : Nat := 128

def firstBias : Nat := 72

/-- The threshold of the digit at a place. -/
def threshold (bias place : Nat) : Nat := max 1 (min 26 (base * (place + 1) - bias))

/-- How often a number has to be divided by 35 to come down to 455, and what is left of it. -/
def divisions (delta : Nat) : Nat × Nat :=
  if 455 < delta then
    let (count, rest) := divisions (delta / 35)
    (count + 1, rest)
  else (0, delta)
termination_by delta
decreasing_by omega

/-- The bias after a number, when the text has so many characters. -/
def adapt (first : Bool) (delta length : Nat) : Nat :=
  let halved := delta / (if first then 700 else 2)
  let (count, rest) := divisions (halved + halved / length)
  base * count + base * rest / (rest + 38)

/-! ### Reading -/

def digit? (c : Char) : Option Nat :=
  if 'a' ≤ c ∧ c ≤ 'z' then some (c.toNat - 97)
  else if 'A' ≤ c ∧ c ≤ 'Z' then some (c.toNat - 65)
  else if c.isDigit then some (c.toNat - 22)
  else none

/-- What has been read so far. -/
structure Reading where
  output : Text
  code : Nat := firstCode
  /-- Where the last character was put. -/
  point : Nat := 0
  bias : Nat := firstBias
  /-- The places, the weight and the value of the number at hand. -/
  place : Nat := 0
  weight : Nat := 1
  delta : Nat := 0
  /-- No number has been read yet. -/
  first : Bool := true

namespace Reading

/-- Puts in the character that a complete number stands for. -/
def insert? (reading : Reading) (delta : Nat) : Option Reading :=
  let length := reading.output.length + 1
  let total := reading.point + delta
  let code := reading.code + total / length
  let point := total % length
  if code.isValidChar then
    some {
      output := reading.output.insertIdx point (Char.ofNat code)
      code
      point := point + 1
      bias := adapt reading.first delta length
      first := false }
  else none

def digit? (reading : Reading) (c : Char) : Option Reading := do
  let digit ← Punycode.digit? c
  let delta := reading.delta + digit * reading.weight
  let limit := threshold reading.bias reading.place
  if Nat.pow 2 32 ≤ delta then none
  else if digit < limit then reading.insert? delta
  else
    some { reading with
      place := reading.place + 1
      weight := reading.weight * (base - limit)
      delta }

end Reading

/-- The ASCII characters at the front of a written text, and its digits. A hyphen at the very
front follows nothing, and so separates nothing. -/
def split (text : Text) : Text × Text :=
  let after := (text.reverse.takeWhile (· != '-')).reverse
  if text.length ≤ after.length + 1 then ([], text)
  else (text.take (text.length - after.length - 1), after)

/-- The text that is written in ASCII so. -/
def decode? (text : Text) : Option Text := do
  let (plain, digits) := split text
  let reading ← digits.foldlM Reading.digit? { output := plain }
  if reading.place = 0 ∧ text.all (·.toNat < firstCode) then some reading.output else none

/-! ### Writing -/

def digitChar (digit : Nat) : Char :=
  Char.ofNat (if digit < 26 then digit + 97 else digit + 22)

/-- The digits of a number from a place on. -/
def digitsFrom (bias place delta : Nat) : Text :=
  let limit := threshold bias place
  if delta < limit then [digitChar delta]
  else
    digitChar (limit + (delta - limit) % (base - limit)) ::
      digitsFrom bias (place + 1) ((delta - limit) / (base - limit))
termination_by delta
decreasing_by
  have hlimit : 1 ≤ threshold bias place := by unfold threshold; omega
  exact Nat.lt_of_le_of_lt (Nat.div_le_self _ _) (by omega)

/-- What has been written so far. -/
structure Writing where
  digits : Text := []
  bias : Nat := firstBias
  delta : Nat := 0
  /-- How many characters have been written. -/
  handled : Nat
  first : Bool := true

namespace Writing

/-- Passes a character of the text while those with a code are written. -/
def pass (code : Nat) (writing : Writing) (c : Char) : Writing :=
  if c.toNat < code then { writing with delta := writing.delta + 1 }
  else if c.toNat = code then {
    digits := writing.digits ++ digitsFrom writing.bias 0 writing.delta
    bias := adapt writing.first writing.delta (writing.handled + 1)
    delta := 0
    handled := writing.handled + 1
    first := false }
  else writing

/-- Writes all characters with one code, the codes between it and the one before having none. -/
def write (text : Text) (writing : Writing) (before code : Nat) : Writing :=
  let gap := (code - before) * (writing.handled + 1)
  let written := text.foldl (pass code) { writing with delta := writing.delta + gap }
  { written with delta := written.delta + 1 }

end Writing

/-- The codes of a text that are written as numbers, in order. -/
def codes (text : Text) : List Nat :=
  ((text.map Char.toNat).filter (firstCode ≤ ·)).mergeSort.eraseDups

def encode (text : Text) : Text :=
  let plain := text.filter (·.toNat < firstCode)
  let (_, writing) := (codes text).foldl
    (fun (before, writing) code ↦ (code + 1, writing.write text before code))
    (firstCode, ({ handled := plain.length } : Writing))
  plain ++ (if plain = [] then [] else ['-']) ++ writing.digits

end StudyGuide.Text.Punycode
