import StudyGuide.Bytes
import StudyGuide.Media.HostName

/-!
Hosts of web addresses: an address of four bytes, an address of eight groups in brackets, or a
name. Addresses have one written form each, whatever form they were given in.
-/

set_option autoImplicit false
set_option relaxedAutoImplicit false

namespace StudyGuide

inductive Host where
  /-- A number below 2^32. -/
  | number (address : Nat)
  /-- Eight numbers below 2^16. -/
  | groups (address : List Nat)
  | name (name : Text)
deriving DecidableEq, Repr

namespace Host

def isHexDigit (c : Char) : Bool :=
  c.isDigit || ('a' ≤ c && c ≤ 'f') || ('A' ≤ c && c ≤ 'F')

def hexValue (c : Char) : Nat :=
  if c.isDigit then c.toNat - 48 else if c ≤ 'F' then c.toNat - 55 else c.toNat - 87

/-- The value of digits in a base; none if there is no digit or a wrong one. -/
def digitsValue? (base : Nat) (digits : Text) : Option Nat :=
  if digits ≠ [] ∧ digits.all (fun c ↦ isHexDigit c && decide (hexValue c < base)) then
    some (digits.foldl (fun value c ↦ value * base + hexValue c) 0)
  else none

/-! ### Numbers -/

/-- A part of a number: decimal, octal after a zero, hexadecimal after `0x`. -/
def part? : Text → Option Nat
  | ['0'] => some 0
  | '0' :: 'x' :: [] | '0' :: 'X' :: [] => some 0
  | '0' :: 'x' :: digits | '0' :: 'X' :: digits => digitsValue? 16 digits
  | '0' :: digits => digitsValue? 8 digits
  | digits => digitsValue? 10 digits

/-- The parts of a host, without the empty one that a final dot leaves. -/
def parts (host : Text) : List Text :=
  let parts := Text.splitAt '.' host
  if 1 < parts.length ∧ parts.getLast? = some [] then parts.dropLast else parts

/-- A host whose last part is a number is a number or nothing. -/
def endsInNumber (host : Text) : Bool :=
  match (parts host).getLast? with
  | none | some [] => false
  | some last => last.all Char.isDigit || (part? last).isSome

/-- The number of at most four parts; the last one fills the bytes that the others leave. -/
def number? (host : Text) : Option Nat := do
  let numbers ← (parts host).mapM part?
  let first := numbers.dropLast
  let last ← numbers.getLast?
  if 4 < numbers.length ∨ first.any (256 ≤ ·) ∨ Nat.pow 256 (4 - first.length) ≤ last then none
  else
    let places := first.zipIdx.map fun (value, index) ↦ value * Nat.pow 256 (3 - index)
    some (last + places.foldr (· + ·) 0)

/-! ### Groups -/

def group? (text : Text) : Option Nat :=
  if text.length ≤ 4 then digitsValue? 16 text else none

/-- One of the four decimal numbers that may end the groups; it has no zero in front. -/
def byte? (text : Text) : Option Nat :=
  if text.head? = some '0' ∧ text ≠ ['0'] then none
  else (digitsValue? 10 text).filter (· < 256)

/-- The last piece of a row of groups: one group, or two in four decimal numbers. -/
def lastGroups? (text : Text) : Option (List Nat) :=
  if '.' ∈ text then do
    let [a, b, c, d] ← (Text.splitAt '.' text).mapM byte? | none
    return [a * 256 + b, c * 256 + d]
  else (group? text).map fun group ↦ [group]

/-- A row of groups with colons between them; it may be empty. -/
def groupRow? (text : Text) : Option (List Nat) :=
  if text = [] then some []
  else do
    let pieces := Text.splitAt ':' text
    return (← pieces.dropLast.mapM group?) ++ (← lastGroups? (pieces.getLastD []))

/-- The texts before and after the first double colon. -/
def splitGap : Text → Option (Text × Text)
  | ':' :: ':' :: rest => some ([], rest)
  | c :: rest => (splitGap rest).map fun (before, after) ↦ (c :: before, after)
  | [] => none

/-- Eight groups, or fewer around one gap that stands for zeros. -/
def groups? (text : Text) : Option (List Nat) := do
  match splitGap text with
  | none =>
    let row ← groupRow? text
    if row.length = 8 then some row else none
  | some (before, after) =>
    if '.' ∈ before then none
    else
      let first ← groupRow? before
      let second ← groupRow? after
      if 7 < first.length + second.length then none
      else some (first ++ List.replicate (8 - first.length - second.length) 0 ++ second)

/-! ### Reading -/

/-- The bytes of a text, where two digits after a percent sign are a byte. -/
def unescaped : Text → Bytes
  | '%' :: a :: b :: rest =>
    if isHexDigit a && isHexDigit b then
      UInt8.ofNat (hexValue a * 16 + hexValue b) :: unescaped rest
    else Bytes.ofText ['%'] ++ unescaped (a :: b :: rest)
  | c :: rest => Bytes.ofText [c] ++ unescaped rest
  | [] => []

/-- The host of a name or number. -/
def ofName? (host : Text) : Option Host := do
  let name ← HostName.written? (← Bytes.toText? (unescaped host))
  if name = [] then none
  else if endsInNumber name then (number? name).map .number
  else some (.name name)

def parse? : Text → Option Host
  | '[' :: rest => if rest.getLast? = some ']' then (groups? rest.dropLast).map .groups else none
  | host => ofName? host

/-! ### Writing -/

/-- An address as four numbers with dots. -/
def dotted (address : Nat) : Text :=
  Text.joinWith ['.'] ([3, 2, 1, 0].map fun place ↦ Text.ofNat (address / Nat.pow 256 place % 256))

/-- The number of zeros at the front. -/
def zerosAt (groups : List Nat) : Nat := (groups.takeWhile (· = 0)).length

/-- Where the longest run of zeros begins, the first one of equals, and its length. -/
def longestZeros (groups : List Nat) : Nat × Nat :=
  (List.range groups.length).foldl
    (fun (start, length) index ↦
      let here := zerosAt (groups.drop index)
      if length < here then (index, here) else (start, length))
    (0, 0)

def groupsText (groups : List Nat) : Text :=
  Text.joinWith [':'] (groups.map (Nat.toDigits 16))

/-- Eight groups, where the longest run of several zeros is a gap. -/
def bracketed (groups : List Nat) : Text :=
  let (start, length) := longestZeros groups
  if length < 2 then groupsText groups
  else groupsText (groups.take start) ++ [':', ':'] ++ groupsText (groups.drop (start + length))

def text : Host → Text
  | number address => dotted address
  | groups address => '[' :: bracketed address ++ [']']
  | name text => text

/-- The host can stand in the first line of a request, where some signs may not. -/
def isSendable : Host → Bool
  | name text => !text.any (· ∈ ['"', '\x60', '\x7b', '\x7d'])
  | _ => true

end Host

end StudyGuide
