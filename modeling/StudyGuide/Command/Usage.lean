import StudyGuide.Command.Parameter
import StudyGuide.Command.Terminal

/-!
How the command is used, and what is said to who uses it wrongly.
-/

set_option autoImplicit false
set_option relaxedAutoImplicit false

namespace StudyGuide.Command

def inputsName : Text := "[INPUTS]..."

inductive UsageError where
  | unexpectedArgument (argument : Text)
  /-- A value is given to a switch. -/
  | unexpectedValue (parameter value : Text)
  | missingValue (parameter : Text)
  | invalidValue (parameter value : Text) (reason : Option Text)
  | repeated (parameter : Text)
  /-- Two things were given of which only one may be; the one that came first is named first. -/
  | conflict (first second : Text)
  | missingInputs
  /-- Nothing was given at all. -/
  | nothingGiven
deriving DecidableEq, Repr

/-- What is wrong with a value of a parameter. -/
def UsageError.ofFault (parameter value : Text) : ValueFault → UsageError
  | .missing => .missingValue parameter
  | .notListed => .invalidValue parameter value none
  | .invalid reason => .invalidValue parameter value (some reason)

namespace Usage

def purpose : Text := "Turn photos and voice notes of study material into a study-guide PDF"

def version : Text := "notes2guide 0.1.0"

def line : Text := "Usage: notes2guide [OPTIONS] [INPUTS]..."

/-- One parameter in the overview. -/
def entry (parameter : Parameter) : Text :=
  (match parameter.letter with
    | none => "      "
    | some letter => "  -" ++ [letter, ',', ' ']) ++
    parameter.shown ++ "\n          " ++ parameter.about

/-- The overview of all parameters. -/
def overview : Text :=
  purpose ++ "\n\n" ++ line ++
    "\n\nArguments:\n  [INPUTS]...\n          " ++
    "Photos or recordings: local paths or HTTP/HTTPS URLs" ++
    "\n\nOptions:\n" ++ Text.joinWith "\n\n" (Parameter.all.map entry)

def answer : Inquiry → Text
  | .help => overview
  | .version => version

end Usage

namespace UsageError

/-- A text between quotes. -/
def quoted (text : Text) : Text := '\x27' :: text ++ ['\x27']

/-- What is wrong, with what the user wrote in yellow. -/
def detail : UsageError → Text
  | unexpectedArgument argument => "unexpected argument " ++ quoted (yellow argument) ++ " found"
  | unexpectedValue parameter value =>
    "unexpected value " ++ quoted (yellow value) ++ " for " ++ quoted (bold parameter) ++
      " found; no more were expected"
  | missingValue parameter =>
    "a value is required for " ++ quoted (yellow parameter) ++ " but none was supplied"
  | invalidValue parameter value reason =>
    "invalid value " ++ quoted (yellow value) ++ " for " ++ quoted (bold parameter) ++
      match reason with
      | none => []
      | some reason => ": " ++ reason
  | repeated parameter =>
    "the argument " ++ quoted (yellow parameter) ++ " cannot be used multiple times"
  | conflict first second =>
    "the argument " ++ quoted (yellow first) ++ " cannot be used with " ++ quoted (yellow second)
  | missingInputs => "the following required arguments were not provided:\n  <INPUTS>..."
  | nothingGiven => []

/-- What is said: what is wrong and how the command is used. -/
def message : UsageError → Text
  | nothingGiven => Usage.overview
  | error => boldRed "error:" ++ ' ' :: error.detail ++ "\n\n" ++ Usage.line

end UsageError

end StudyGuide.Command
