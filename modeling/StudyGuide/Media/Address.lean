import StudyGuide.Media.Host

/-!
Web addresses: which are well formed, and how they are written out. An address names a host after
an optional user, and may have a colon and a channel number below 65536 after it; its path and
query are written with percent signs for what may not stand in them.
-/

set_option autoImplicit false
set_option relaxedAutoImplicit false

namespace StudyGuide

/-- Who asks, as it stands before a host, with percent signs. -/
structure Address.User where
  name : Text
  password : Option Text
deriving DecidableEq, Repr

structure Address where
  /-- What the address begins with, up to the two strokes. -/
  scheme : Text
  user : Option Address.User
  host : Host
  /-- The channel number, unless it is the usual one. -/
  channel : Option Nat
  /-- The path, the query and the fragment, each with the mark that opens it. -/
  tail : Text
deriving DecidableEq, Repr

namespace Address

/-! ### Percent signs -/

def hexByte (byte : UInt8) : Text :=
  [(Nat.digitChar (byte.toNat / 16)).toUpper, (Nat.digitChar (byte.toNat % 16)).toUpper]

/-- Percent signs for blanks, controls, characters beyond ASCII and those listed. -/
def escaped (reserved : Text) (text : Text) : Text :=
  text.flatMap fun c ↦
    if c.toNat ≤ 0x20 ∨ 0x7F ≤ c.toNat ∨ c ∈ reserved then
      (Bytes.ofText [c]).flatMap fun byte ↦ '%' :: hexByte byte
    else [c]

def reservedInPath : Text := ['"', '<', '>', '\x60', '#', '?', '\x7b', '\x7d']

def reservedInUser : Text := reservedInPath ++ ['/', ':', ';', '=', '@', '[', '\\', ']', '^', '|']

def reservedInQuery : Text := ['"', '<', '>', '\x27']

def reservedInFragment : Text := ['"', '<', '>', '\x60']

/-! ### Users -/

/-- The user of what stands before the last sign `@`; a colon comes before the password. -/
def user? (text : Text) : Option User :=
  let (name, password) := match Text.splitFirst ':' text with
    | none => (text, none)
    | some (name, password) => (name, if password = [] then none else some password)
  if name = [] ∧ password = none then none
  else some {
    name := escaped reservedInUser name
    password := password.map (escaped reservedInUser) }

def User.text (user : User) : Text :=
  user.name ++ (match user.password with | none => [] | some password => ':' :: password) ++ ['@']

def isText (escaped : Text) : Bool := (Bytes.toText? (Host.unescaped escaped)).isSome

/-- The user can be told to the host apart from the address: its name is text, and it has a name
or a password that is text. -/
def User.isTellable (user : User) : Bool :=
  isText user.name && (user.name != [] || user.password.any isText)

/-! ### Channels -/

/-- A host and the channel after its colon; colons in brackets belong to the host. -/
def splitChannel (bracketed : Bool) : Text → Text × Option Text
  | [] => ([], none)
  | c :: rest =>
    if c = ':' ∧ !bracketed then ([], some rest)
    else
      let (host, channel) := splitChannel (c = '[' ∨ bracketed ∧ c ≠ ']') rest
      (c :: host, channel)

/-- The channel number that is written out, if what is given is one; the usual one is not. -/
def channel? (usual : Nat) : Option Text → Option (Option Nat)
  | none | some [] => some none
  | some digits => do
    let number ← Host.digitsValue? 10 digits
    if 65536 ≤ number then none else some (if number = usual then none else some number)

/-! ### Paths -/

def isDot (name : Text) : Bool := name = ['.'] || Text.asciiLower name = "%2e".toList

def isDoubleDot (name : Text) : Bool :=
  let name := Text.asciiLower name
  name = ['.', '.'] || name = ".%2e".toList || name = "%2e.".toList || name = "%2e%2e".toList

/-- The name of a drive: a letter before a colon or a bar. -/
def isDrive : Text → Bool
  | [letter, mark] => letter.isAlpha && (mark == ':' || mark == '|')
  | _ => false

/-- Names, kept in reverse, after a step up. A drive stays. -/
def stepUp : List Text → List Text
  | [] => []
  | name :: above => if isDrive name then name :: above else above

/-- The names of a path without its dots; two dots take the name before them away. A path that
ends in dots ends in an empty name. -/
def withoutDots (before : List Text) : List Text → List Text
  | [] => before.reverse
  | name :: rest =>
    let closing := if rest = [] then [[]] else []
    if isDoubleDot name then withoutDots (closing ++ stepUp before) rest
    else if isDot name then withoutDots (closing ++ before) rest
    else withoutDots (name :: before) rest

/-- A path as it is written; it begins with a separator. -/
def writtenPath (path : Text) : Text :=
  let names := (Text.splitAt '/' (path.map fun c ↦ if c = '\\' then '/' else c)).drop 1
  '/' :: Text.joinWith ['/'] (withoutDots [] (names.map (escaped reservedInPath)))

/-- The path, the query and the fragment after a host, as they are written. -/
def writtenTail (tail : Text) : Text :=
  let path := tail.takeWhile fun c ↦ c != '?' && c != '#'
  let rest := tail.drop path.length
  let query := rest.takeWhile (· != '#')
  let fragment := rest.drop query.length
  writtenPath path ++ escaped reservedInQuery query ++ escaped reservedInFragment fragment

/-! ### Whole addresses -/

/-- Schemes, each with its usual channel number. -/
def schemes : List (Text × Nat) := [("http://", 80), ("https://", 443)]

/-- What remains of a text when blanks and controls at its end, and line ends and tabs anywhere,
are dropped. -/
def cleaned (text : Text) : Text :=
  (text.reverse.dropWhile (·.toNat ≤ 0x20)).reverse.filter fun c ↦ !(c ∈ ['\t', '\n', '\r'])

/-- The texts before and after the last sign `@`. -/
def splitUser (authority : Text) : Option Text × Text :=
  let after := (authority.reverse.takeWhile (· != '@')).reverse
  if after.length = authority.length then (none, authority)
  else (some (authority.take (authority.length - after.length - 1)), after)

def parse? (url : Text) : Option Address := do
  let (scheme, usual) ← schemes.find? fun (scheme, _) ↦ Text.startsWith url scheme
  let rest := (cleaned (url.drop scheme.length)).dropWhile fun c ↦ c == '/' || c == '\\'
  let authority := rest.takeWhile fun c ↦ !(c ∈ ['/', '\\', '?', '#'])
  let (user, place) := splitUser authority
  let (host, channel) := splitChannel false place
  return {
    scheme
    user := user.bind user?
    host := ← Host.parse? host
    channel := ← channel? usual channel
    tail := writtenTail (rest.drop authority.length) }

/-- The address written out. -/
def text (address : Address) : Text :=
  address.scheme ++ ((address.user.map User.text).getD []) ++ address.host.text ++
    (match address.channel with | none => [] | some number => ':' :: Text.ofNat number) ++
    address.tail

/-- The address that is asked for; the user is told to the host apart from it. -/
def asked (address : Address) : Address :=
  { address with user := address.user.filter (!·.isTellable) }

/-- The longest address, in bytes, that can be asked for. -/
def longestAsked : Nat := 65534

/-- The address can stand in the first line of a request. -/
def isSendable (address : Address) : Bool :=
  address.host.isSendable && decide (address.text.length ≤ longestAsked)

end Address

end StudyGuide
