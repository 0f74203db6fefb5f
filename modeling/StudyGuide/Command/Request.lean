import StudyGuide.Config
import StudyGuide.Media.Source

/-!
What a command line asks for.
-/

set_option autoImplicit false
set_option relaxedAutoImplicit false

namespace StudyGuide.Command

structure Request where
  /-- Paths and addresses of photos and recordings. -/
  inputs : List Text := []
  /-- The file of the guide, or the directory of its file. -/
  output : Text := ['.']
  /-- An answer of a model to compile in place of asking one. -/
  fromText : Option Text := none
  /-- Where the answer of the model is kept. -/
  saveText : Option Text := none
  author : Text := "Estudiante"
  defaultTitle : Option Text := none
  credits : Option Int := none
  model : Option Text := none
  provider : Option Text := none
  /-- A file with an instruction. -/
  instruction : Option Text := none
  maxTokens : Nat := 8192
  temperature : Float32 := 0.4
  maxRetries : Nat := 3
  concurrency : Nat := 4
  /-- The largest input, in units of 2^20 bytes. -/
  maxFileMb : Nat := 20
  downloadTimeout : Nat := 120
  apiTimeout : Nat := 120
  json : Bool := false
  noProgress : Bool := false
  verbose : Bool := false
  quiet : Bool := false

namespace Request

/-- Progress is for those who wait for a model at a terminal. -/
def showsProgress (request : Request) : Bool :=
  !request.quiet && !request.noProgress && !request.json && request.fromText.isNone

/-- The paths that a request names. -/
def paths (request : Request) : List Text :=
  request.output :: request.inputs.filter (!Source.isUrl ·) ++ request.fromText.toList ++
    request.saveText.toList ++ request.instruction.toList

/-- Sizes are counted in words of 64 bits and stay at the largest. -/
def maxFileBytes (request : Request) : Nat :=
  min (request.maxFileMb * Nat.pow 2 20) (Nat.pow 2 64 - 1)

/-- The settings that are asked for, with the text of the instruction. -/
def config (request : Request) (instruction : Option Text) : Config :=
  let settings : Config := {
    author := request.author
    instruction
    model := request.model
    providerName := request.provider
    maxTokens := request.maxTokens
    maxRetries := request.maxRetries
    apiTimeoutSecs := request.apiTimeout
    downloadTimeoutSecs := request.downloadTimeout
    maxFileBytes := request.maxFileBytes }
  let titled := match request.defaultTitle with
    | none => settings
    | some defaultTitle => { settings with defaultTitle }
  (titled.withTemperature request.temperature).withConcurrency request.concurrency

end Request

end StudyGuide.Command
