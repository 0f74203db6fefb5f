import StudyGuide.Command.Usage
import StudyGuide.Provider

/-!
Reading a command line. Arguments are taken from left to right; what the command line leaves open
is filled from variables of the environment. A value that was begun is read only when the next
parameter or the end shows that it is complete, so that an unknown name is reported first.
-/

set_option autoImplicit false
set_option relaxedAutoImplicit false

namespace StudyGuide.Command

/-- Why a command line leads to no request. -/
inductive Stop where
  | misuse (error : UsageError)
  | inquiry (inquiry : Inquiry)
deriving DecidableEq, Repr

/-- A parameter whose value is still open, or is there but not read. -/
structure Pending where
  parameter : Parameter
  value : Option Text

/-- What has been read so far. -/
structure Reading where
  request : Request := {}
  /-- What has been given, by its name in messages, in order. -/
  given : List Text := []
  pending : Option Pending := none

namespace Reading

def misuse {α : Type} (error : UsageError) : Except Stop α := .error (.misuse error)

def note (reading : Reading) (shown : Text) : Reading :=
  { reading with given := reading.given ++ [shown] }

/-- Reads a value of a parameter into the request. -/
def assign (reading : Reading) (parameter : Parameter) (value : Text) : Except Stop Reading :=
  let change : Except ValueFault (Request → Request) := match parameter.action with
    | .inquire _ => .ok id
    | .switch set => (Value.switch value).map set
    | .value read => read value
  match change with
  | .error fault => misuse (.ofFault parameter.shown value fault)
  | .ok change =>
    .ok ({ reading with request := change reading.request }.note parameter.shown)

/-- Takes a parameter that the command line gives; it may give each only once. -/
def take (reading : Reading) (parameter : Parameter) (value : Text) : Except Stop Reading :=
  if parameter.shown ∈ reading.given then misuse (.repeated parameter.shown)
  else reading.assign parameter value

/-- Reads what is pending. -/
def settle (reading : Reading) : Except Stop Reading :=
  match reading.pending with
  | none => .ok reading
  | some ⟨parameter, none⟩ => misuse (.missingValue parameter.shown)
  | some ⟨parameter, some value⟩ => { reading with pending := none }.take parameter value

/-- Takes a parameter at its name. -/
def begin (reading : Reading) (parameter : Parameter) (value : Option Text) :
    Except Stop Reading := do
  let reading ← reading.settle
  match parameter.action, value with
  | .inquire inquiry, _ => throw (.inquiry inquiry)
  | .switch _, _ => reading.take parameter "true"
  | .value _, some value => reading.take parameter value
  | .value _, none => return { reading with pending := some ⟨parameter, none⟩ }

/-- Takes an input, or the value that is waited for. -/
def plain (reading : Reading) (text : Text) : Except Stop Reading := do
  let reading ← reading.settle
  let reading := { reading with
    request := { reading.request with inputs := reading.request.inputs ++ [text] } }
  return if inputsName ∈ reading.given then reading else reading.note inputsName

/-- Takes a name after two dashes, with the value that an equals sign may join to it. -/
def long (reading : Reading) (argument : Text) : Except Stop Reading :=
  let (name, value) := match Text.splitFirst '=' argument with
    | none => (argument, none)
    | some (name, value) => (name, some value)
  match Parameter.ofName? name with
  | none => misuse (.unexpectedArgument ("--" ++ name))
  | some parameter =>
    match parameter.takesValue, value with
    | false, some value => misuse (.unexpectedValue parameter.shown value)
    | _, value => reading.begin parameter value

/-- Takes letters after one dash. What follows the letter of a parameter with a value is the
value, without an equals sign at its front. -/
def letters (reading : Reading) : Text → Except Stop Reading
  | [] => .ok reading
  | letter :: rest =>
    match Parameter.ofLetter? letter with
    | none => misuse (.unexpectedArgument ['-', letter])
    | some parameter =>
      if parameter.takesValue then
        match rest with
        | [] => reading.begin parameter none
        | '=' :: value => reading.begin parameter (some value)
        | value => reading.begin parameter (some value)
      else (reading.begin parameter none).bind fun reading ↦ reading.letters rest

/-- Takes an argument that is no name. -/
def word (reading : Reading) (text : Text) : Except Stop Reading :=
  match reading.pending with
  | some ⟨parameter, none⟩ => .ok { reading with pending := some ⟨parameter, some text⟩ }
  | _ => reading.plain text

/-- Takes the arguments of a command line. After two dashes alone all are inputs. -/
def arguments (reading : Reading) : List Text → Except Stop Reading
  | [] => reading.settle
  | ['-', '-'] :: rest => (rest.foldlM plain reading).bind settle
  | ('-' :: '-' :: argument) :: rest =>
    (reading.long argument).bind fun reading ↦ reading.arguments rest
  | ('-' :: letter :: more) :: rest =>
    (reading.letters (letter :: more)).bind fun reading ↦ reading.arguments rest
  | text :: rest => (reading.word text).bind fun reading ↦ reading.arguments rest

/-- Reads the variable of a parameter that the command line does not give. -/
def fill (env : Environment) (reading : Reading) (parameter : Parameter) : Except Stop Reading :=
  if parameter.shown ∈ reading.given then .ok reading
  else match parameter.variableName.bind env.value? with
    | none => .ok reading
    | some value => reading.assign parameter value

def fromTextName : Text := "--from-text <FROM_TEXT>"

/-- What a guide may be made of: inputs, or an answer that is there already. -/
def isMaterial (shown : Text) : Bool := shown == inputsName || shown == fromTextName

/-- A guide is made of one material. -/
def check (reading : Reading) : Except Stop Request :=
  match reading.given, reading.given.filter isMaterial with
  | [], _ => misuse .nothingGiven
  | _, [] => misuse .missingInputs
  | _, first :: second :: _ => misuse (.conflict first second)
  | _, [_] => .ok reading.request

end Reading

/-- The variables that styles may depend on. -/
def styleVariables : List Text := ["NO_COLOR", "CLICOLOR_FORCE"]

/-- The variables that the command looks at. -/
def variableNames : List Text :=
  Parameter.all.filterMap Parameter.variableName ++ Provider.variableNames ++ styleVariables

/-- The environment asks for styles also where no terminal shows them. -/
def forcesStyles (env : Environment) : Bool :=
  (env.nonempty? "NO_COLOR").isNone && (env.nonempty? "CLICOLOR_FORCE").isSome

/-- The request of a command line. -/
def request (env : Environment) (arguments : List Text) : Except Stop Request := do
  let reading ← Reading.arguments {} arguments
  (← Parameter.all.foldlM (Reading.fill env) reading).check

end StudyGuide.Command
