import StudyGuide.Text.Basic

/-!
JSON values and their text, indented by two spaces a level.
-/

set_option autoImplicit false
set_option relaxedAutoImplicit false

namespace StudyGuide

inductive Json where
  | null
  | bool (value : Bool)
  | number (value : Int)
  | string (value : Text)
  | array (items : List Json)
  | object (fields : List (Text × Json))

namespace Json

/-! ### Strings -/

def hexadecimal (n : Nat) : Text := (Nat.toDigits 16 n).leftpad 4 '0'

/-- A character inside quotes. Controls have an escape, and so have the quote and the backslash. -/
def escape (c : Char) : Text :=
  if c = '"' then "\\\""
  else if c = '\\' then "\\\\"
  else if c = '\n' then "\\n"
  else if c = '\r' then "\\r"
  else if c = '\t' then "\\t"
  else if c = '\x08' then "\\b"
  else if c = '\x0c' then "\\f"
  else if c.toNat < 0x20 then "\\u" ++ hexadecimal c.toNat
  else [c]

def quote (text : Text) : Text := '"' :: text.flatMap escape ++ ['"']

/-! ### Values -/

/-- The start of a line at a depth. -/
def indent (depth : Nat) : Text := '\n' :: List.replicate (2 * depth) ' '

/-- Items between brackets, each on a line of its own. -/
def enclose (opening closing : Char) (depth : Nat) (items : List Text) : Text :=
  if items = [] then [opening, closing]
  else
    opening :: Text.joinWith [','] (items.map (indent (depth + 1) ++ ·)) ++
      indent depth ++ [closing]

mutual

/-- The text of a value that stands at a depth. -/
def render (depth : Nat) : Json → Text
  | .null => "null"
  | .bool true => "true"
  | .bool false => "false"
  | .number value => Text.ofInt value
  | .string value => quote value
  | .array items => enclose '[' ']' depth (renderItems (depth + 1) items)
  | .object fields => enclose '\x7b' '\x7d' depth (renderFields (depth + 1) fields)

def renderItems (depth : Nat) : List Json → List Text
  | [] => []
  | item :: rest => render depth item :: renderItems depth rest

def renderFields (depth : Nat) : List (Text × Json) → List Text
  | [] => []
  | (key, value) :: rest =>
    (quote key ++ ": " ++ render depth value) :: renderFields depth rest

end

def text (value : Json) : Text := render 0 value

def ofNat (n : Nat) : Json := .number n

/-- A value that may be missing. -/
def ofOption {α : Type} (f : α → Json) : Option α → Json
  | none => .null
  | some value => f value

end Json

end StudyGuide
