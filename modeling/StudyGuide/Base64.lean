import StudyGuide.Bytes

/-!
Base64 with the standard alphabet and padding: three bytes make four characters, and the last
group is filled with `=`. The decoder accepts exactly what the encoder writes.
-/

set_option autoImplicit false
set_option relaxedAutoImplicit false

namespace StudyGuide.Base64

def alphabet : Text := "ABCDEFGHIJKLMNOPQRSTUVWXYZabcdefghijklmnopqrstuvwxyz0123456789+/"

/-- The character of a value below 64. -/
def digit (value : Nat) : Char := alphabet.getD value '='

def encode : Bytes → Text
  | [] => []
  | [a] => [digit (a.toNat / 4), digit (a.toNat % 4 * 16), '=', '=']
  | [a, b] =>
    [digit (a.toNat / 4), digit (a.toNat % 4 * 16 + b.toNat / 16), digit (b.toNat % 16 * 4), '=']
  | a :: b :: c :: rest =>
    digit (a.toNat / 4) :: digit (a.toNat % 4 * 16 + b.toNat / 16) ::
      digit (b.toNat % 16 * 4 + c.toNat / 64) :: digit (c.toNat % 64) :: encode rest

/-- The value of a character of the alphabet. -/
def value? (c : Char) : Option Nat := alphabet.idxOf? c

/-- The bytes of the last group; the bits that no byte takes must be zero. -/
def decodeLast (a b : Nat) (third : Option Nat) : Option Bytes :=
  let first := (a * 4 + b / 16).toUInt8
  match third with
  | none => if b % 16 = 0 then some [first] else none
  | some c => if c % 4 = 0 then some [first, (b % 16 * 16 + c / 4).toUInt8] else none

def decode : Text → Option Bytes
  | [] => some []
  | a :: b :: '=' :: '=' :: [] => do decodeLast (← value? a) (← value? b) none
  | a :: b :: c :: '=' :: [] => do decodeLast (← value? a) (← value? b) (some (← value? c))
  | a :: b :: c :: d :: rest => do
    let a ← value? a
    let b ← value? b
    let c ← value? c
    let d ← value? d
    let tail ← decode rest
    return (a * 4 + b / 16).toUInt8 :: (b % 16 * 16 + c / 4).toUInt8 ::
      (c % 4 * 64 + d).toUInt8 :: tail
  | _ => none

end StudyGuide.Base64
