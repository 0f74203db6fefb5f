import StudyGuide.Text.Basic

/-!
Values of parameters, read from text.
-/

set_option autoImplicit false
set_option relaxedAutoImplicit false

namespace StudyGuide.Command

/-- Why a text is no value. -/
inductive ValueFault where
  /-- There has to be a text. -/
  | missing
  /-- The text is none of the few that there are. -/
  | notListed
  | invalid (reason : Text)
deriving DecidableEq, Repr

namespace ValueFault

def invalidDigit : ValueFault := .invalid "invalid digit found in string"

def tooLarge : ValueFault := .invalid "number too large to fit in target type"

def tooSmall : ValueFault := .invalid "number too small to fit in target type"

def emptyInteger : ValueFault := .invalid "cannot parse integer from empty string"

def emptyFloat : ValueFault := .invalid "cannot parse float from empty string"

def invalidFloat : ValueFault := .invalid "invalid float literal"

def outOfRange (value : Int) (largest : Nat) : ValueFault :=
  .invalid (Text.ofInt value ++ " is not in 0..=" ++ Text.ofNat largest)

end ValueFault

namespace Value

def any (text : Text) : Except ValueFault Text := .ok text

def path (text : Text) : Except ValueFault Text :=
  if text = [] then .error .missing else .ok text

/-- A switch is set by one of two words. -/
def switch (text : Text) : Except ValueFault Bool :=
  if text = [] then .error .missing
  else if text = "true".toList then .ok true
  else if text = "false".toList then .ok false
  else .error .notListed

/-! ### Integers -/

def digit? (c : Char) : Option Nat := if c.isDigit then some (c.toNat - '0'.toNat) else none

/-- Digits after those of `value`, up to a limit that is watched digit by digit. -/
def digitsFrom (limit : Nat) (overflow : ValueFault) (value : Nat) : Text → Except ValueFault Nat
  | [] => .ok value
  | c :: rest =>
    match digit? c with
    | none => .error .invalidDigit
    | some digit =>
      let next := 10 * value + digit
      if limit < next then .error overflow else digitsFrom limit overflow next rest

/-- At least one digit. -/
def digits (limit : Nat) (overflow : ValueFault) (text : Text) : Except ValueFault Nat :=
  if text = [] then .error .invalidDigit else digitsFrom limit overflow 0 text

def largestWord : Nat := Nat.pow 2 64 - 1

/-- A natural number of at most 64 bits. -/
def natural : Text → Except ValueFault Nat
  | [] => .error .emptyInteger
  | '+' :: rest => digits largestWord .tooLarge rest
  | text => digits largestWord .tooLarge text

/-- An integer of 64 bits with a sign. -/
def integer : Text → Except ValueFault Int
  | [] => .error .emptyInteger
  | '-' :: rest => (digits (Nat.pow 2 63) .tooSmall rest).map fun value ↦ -(value : Int)
  | '+' :: rest => (digits (Nat.pow 2 63 - 1) .tooLarge rest).map fun value ↦ (value : Int)
  | text => (digits (Nat.pow 2 63 - 1) .tooLarge text).map fun value ↦ (value : Int)

/-- A natural number of at most 32 bits, refused by name if it is an integer at all. -/
def count (text : Text) : Except ValueFault Nat := do
  let value ← integer text
  if value < 0 ∨ Nat.pow 2 32 ≤ value then throw (.outOfRange value (Nat.pow 2 32 - 1))
  return value.toNat

/-! ### Numbers with a point -/

/-- The nearest number to `mantissa · 10 ^ exponent`; far outside the range no power is formed. -/
def scaled (mantissa : Nat) (exponent : Int) : Float32 :=
  let magnitude := (Text.ofNat mantissa).length + exponent
  if mantissa = 0 ∨ magnitude < -60 then 0
  else if 60 < magnitude then 1 / 0
  else Float32.ofScientific mantissa (exponent < 0) exponent.natAbs

def numeral (digits : Text) : Nat :=
  digits.foldl (fun value c ↦ 10 * value + (c.toNat - '0'.toNat)) 0

/-- The exponent that ends a number; none if it is malformed. -/
def exponent? : Text → Option Int
  | [] => some 0
  | mark :: rest =>
    let (negative, digits) := match rest with
      | '-' :: digits => (true, digits)
      | '+' :: digits => (false, digits)
      | digits => (false, digits)
    if (mark = 'e' ∨ mark = 'E') ∧ digits ≠ [] ∧ digits.all Char.isDigit then
      some (if negative then -(numeral digits : Int) else numeral digits)
    else none

/-- A number without a sign: digits, of which some may follow a point, and an exponent. -/
def magnitude? (text : Text) : Option Float32 :=
  let whole := text.takeWhile Char.isDigit
  let rest := text.dropWhile Char.isDigit
  let (part, rest) := match rest with
    | '.' :: after => (after.takeWhile Char.isDigit, after.dropWhile Char.isDigit)
    | rest => ([], rest)
  if whole ++ part = [] then none
  else (exponent? rest).map fun exponent ↦ scaled (numeral (whole ++ part)) (exponent - part.length)

/-- Names of what is no finite number, in any case. -/
def special? (text : Text) : Option Float32 :=
  let name := Text.asciiLower text
  if name = "inf".toList ∨ name = "infinity".toList then some (1 / 0)
  else if name = "nan".toList then some (0 / 0)
  else none

def unsigned (text : Text) : Except ValueFault Float32 :=
  match (magnitude? text).or (special? text) with
  | some value => .ok value
  | none => .error .invalidFloat

def decimal : Text → Except ValueFault Float32
  | [] => .error .emptyFloat
  | '-' :: rest => (unsigned rest).map (- ·)
  | '+' :: rest => unsigned rest
  | text => unsigned text

end Value

end StudyGuide.Command
