import StudyGuide.Bytes

/-!
Bytes as a text that can always be read. What is valid UTF-8 is the text that it encodes; each
sequence that breaks off and each byte that begins none is a replacement character.
-/

set_option autoImplicit false
set_option relaxedAutoImplicit false

namespace StudyGuide.Bytes

/-- A sequence of UTF-8 that has begun: the bits read, how many bytes follow, and the range that
the next of them has to be in. -/
structure Sequence where
  value : Nat
  missing : Nat
  low : Nat := 0x80
  high : Nat := 0xBF

def replacement : Char := '\uFFFD'

/-- The characters that a first byte completes, and the sequence that it begins. Ranges exclude
longer forms than needed, surrogates, and codes above `0x10FFFF`. -/
def begun (byte : Nat) : Text × Option Sequence :=
  if byte < 0x80 then ([Char.ofNat byte], none)
  else if byte < 0xC2 then ([replacement], none)
  else if byte < 0xE0 then ([], some { value := byte % 32, missing := 1 })
  else if byte = 0xE0 then ([], some { value := 0, missing := 2, low := 0xA0 })
  else if byte = 0xED then ([], some { value := byte % 16, missing := 2, high := 0x9F })
  else if byte < 0xF0 then ([], some { value := byte % 16, missing := 2 })
  else if byte = 0xF0 then ([], some { value := 0, missing := 3, low := 0x90 })
  else if byte < 0xF4 then ([], some { value := byte % 8, missing := 3 })
  else if byte = 0xF4 then ([], some { value := byte % 8, missing := 3, high := 0x8F })
  else ([replacement], none)

/-- A sequence with one more byte. A byte that does not continue it breaks it off and is a first
byte itself. -/
def Sequence.extended (s : Sequence) (byte : Nat) : Text × Option Sequence :=
  let value := s.value * 64 + byte % 64
  if byte < s.low ∨ s.high < byte then (replacement :: (begun byte).1, (begun byte).2)
  else if s.missing ≤ 1 then ([Char.ofNat value], none)
  else ([], some { value, missing := s.missing - 1 })

/-- The text of the bytes that follow a sequence that has begun. -/
def legibleFrom : Option Sequence → Bytes → Text
  | none, [] => []
  | some _, [] => [replacement]
  | none, byte :: rest =>
    (begun byte.toNat).1 ++ legibleFrom (begun byte.toNat).2 rest
  | some s, byte :: rest =>
    (s.extended byte.toNat).1 ++ legibleFrom (s.extended byte.toNat).2 rest

def legible (bytes : Bytes) : Text := (toText? bytes).getD (legibleFrom none bytes)

theorem legible_of_toText? {bytes : Bytes} {text : Text} (h : toText? bytes = some text) :
    legible bytes = text := by
  simp [legible, h]

end StudyGuide.Bytes
