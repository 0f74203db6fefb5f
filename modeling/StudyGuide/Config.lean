import StudyGuide.Compilation
import StudyGuide.Decimal
import StudyGuide.GuideError
import StudyGuide.Instruction
import StudyGuide.Text.Described
import StudyGuide.Theme

/-!
The settings of a run. A configuration is put together freely and checked once, before it is
used.
-/

set_option autoImplicit false
set_option relaxedAutoImplicit false

namespace StudyGuide

structure Config where
  author : Text := "Estudiante"
  /-- The title of a guide whose first line gives none. -/
  defaultTitle : Text := StudyGuide.defaultTitle
  preambleMarkers : List Text := Sanitizer.defaultMarkers
  theme : Theme := Theme.standard
  /-- Replaces the built-in instruction. -/
  instruction : Option Text := none
  model : Option Text := none
  providerName : Option Text := none
  temperature : Float32 := 0.4
  maxTokens : Nat := 8192
  maxRetries : Nat := 3
  /-- The first delay between attempts; each later one is twice as long. -/
  retryBackoffMs : Nat := 500
  /-- Time for one answer of the model. -/
  apiTimeoutSecs : Nat := 120
  downloadTimeoutSecs : Nat := 120
  /-- How many inputs are read at once. -/
  concurrency : Nat := 4
  maxFileBytes : Nat := 20 * 1024 * 1024

namespace Config

/-- The temperature lies between 0 and 2. -/
def withTemperature (config : Config) (temperature : Float32) : Config :=
  let raised := if temperature < 0 then 0 else temperature
  { config with temperature := if 2 < raised then 2 else raised }

/-- At least one input is read at a time. -/
def withConcurrency (config : Config) (count : Nat) : Config :=
  { config with concurrency := max count 1 }

/-- The first fault of a configuration. -/
def fault? (config : Config) : Option Text :=
  if Text.trim config.defaultTitle = [] then some "Default title must not be empty"
  else if config.maxTokens = 0 then some "max_tokens must be ≥ 1"
  else if config.apiTimeoutSecs = 0 then some "API timeout must be ≥ 1 second"
  else if config.maxFileBytes = 0 then some "max_file_bytes must be ≥ 1"
  else match config.instruction with
    | none => none
    | some text =>
      if Text.trim text = [] then some "Instruction override must not be empty" else none

def check (config : Config) : Except GuideError Config :=
  match config.fault? with
  | none => .ok config
  | some reason => .error (.invalidConfig reason)

def sanitizer (config : Config) : Sanitizer := .ofMarkers config.preambleMarkers

def instructionText (config : Config) : Text := config.instruction.getD Instruction.defaultText

/-- A description for logs. It gives the length of an instruction in place of its text. -/
def describe (config : Config) (reportsProgress : Bool) : Text :=
  let quotedOption (text : Option Text) : Text :=
    Text.Described.option (text.map Text.Quoted.encode)
  Text.Described.record "GuideConfig" [
    ("author", Text.Quoted.encode config.author),
    ("default_title", Text.Quoted.encode config.defaultTitle),
    ("preamble_markers", Text.Described.list (config.preambleMarkers.map Text.Quoted.encode)),
    ("instruction",
      Text.Described.option (config.instruction.map fun text ↦ Text.ofNat (Text.byteLength text))),
    ("model", quotedOption config.model),
    ("provider_name", quotedOption config.providerName),
    ("provider", Text.Described.option none),
    ("temperature", Decimal.show32 config.temperature),
    ("max_tokens", Text.ofNat config.maxTokens),
    ("max_retries", Text.ofNat config.maxRetries),
    ("retry_backoff_ms", Text.ofNat config.retryBackoffMs),
    ("api_timeout_secs", Text.ofNat config.apiTimeoutSecs),
    ("concurrency", Text.ofNat config.concurrency),
    ("max_file_bytes", Text.ofNat config.maxFileBytes),
    ("progress_callback",
      quotedOption (if reportsProgress then some "<dyn GuideProgressCallback>" else none))]

/-- A description of a configuration that is still being put together. -/
def describeDraft (config : Config) (reportsProgress : Bool) : Text :=
  Text.Described.record "GuideConfigBuilder" [("config", config.describe reportsProgress)]

end Config

end StudyGuide
