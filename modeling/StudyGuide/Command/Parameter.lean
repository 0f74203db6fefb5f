import StudyGuide.Command.Request
import StudyGuide.Command.Value

/-!
The parameters of the command: their names, the variables that stand in for them, and what their
values do to a request.
-/

set_option autoImplicit false
set_option relaxedAutoImplicit false

namespace StudyGuide.Command

/-- A question about the command itself. -/
inductive Inquiry where
  | help
  | version
deriving DecidableEq, Repr

/-- What a parameter does. -/
inductive Action where
  /-- Answers a question in place of all else. -/
  | inquire (inquiry : Inquiry)
  /-- Sets a switch. -/
  | switch (set : Bool → Request → Request)
  /-- Takes one value. -/
  | value (read : Text → Except ValueFault (Request → Request))

structure Parameter where
  /-- The name after two dashes. -/
  name : Text
  /-- The letter after one dash. -/
  letter : Option Char := none
  /-- The variable that gives a value when the command line gives none. -/
  variableName : Option Text := none
  action : Action
  about : Text

namespace Parameter

def takesValue (parameter : Parameter) : Bool :=
  match parameter.action with
  | .value _ => true
  | .inquire _ | .switch _ => false

/-- What stands for the value in messages. -/
def placeholder (parameter : Parameter) : Text :=
  Text.uppercase (Text.replace ['-'] ['_'] parameter.name)

/-- A parameter as messages name it. -/
def shown (parameter : Parameter) : Text :=
  "--" ++ parameter.name ++
    (if parameter.takesValue then " <" ++ parameter.placeholder ++ ['>'] else [])

/-! ### The table -/

/-- A parameter with a value that is put into a request. -/
def valued {α : Type} (name : Text) (letter : Option Char) (variableName : Text)
    (read : Text → Except ValueFault α) (put : α → Request → Request) (about : Text) :
    Parameter where
  name
  letter
  variableName := some variableName
  action := .value fun text ↦ (read text).map put
  about

def switched (name : Text) (letter : Option Char) (variableName : Text)
    (set : Bool → Request → Request) (about : Text) : Parameter where
  name
  letter
  variableName := some variableName
  action := .switch set
  about

def texts : List Parameter := [
  valued "output" (some 'o') "NOTES2GUIDE_OUTPUT" Value.path
    (fun output request ↦ { request with output }) "Output directory or .pdf path",
  valued "from-text" none "NOTES2GUIDE_FROM_TEXT" Value.path
    (fun path request ↦ { request with fromText := some path })
    "Compile an existing model answer instead of calling a model",
  valued "save-text" none "NOTES2GUIDE_SAVE_TEXT" Value.path
    (fun path request ↦ { request with saveText := some path })
    "Also save the raw model answer to this file",
  valued "author" none "NOTES2GUIDE_AUTHOR" Value.any
    (fun author request ↦ { request with author }) "Name shown under the title",
  valued "default-title" none "NOTES2GUIDE_DEFAULT_TITLE" Value.any
    (fun title request ↦ { request with defaultTitle := some title })
    "Title used when the model gives none",
  valued "credits" none "NOTES2GUIDE_CREDITS" Value.integer
    (fun credits request ↦ { request with credits := some credits })
    "Starting credit balance; one credit is spent per guide",
  valued "model" none "EDGEQUAKE_MODEL" Value.any
    (fun model request ↦ { request with model := some model })
    "LLM model ID (e.g. gemini-2.5-flash, gpt-4.1-mini)",
  valued "provider" none "EDGEQUAKE_PROVIDER" Value.any
    (fun provider request ↦ { request with provider := some provider })
    "LLM provider: gemini, openai, anthropic, ollama",
  valued "instruction" none "NOTES2GUIDE_INSTRUCTION" Value.path
    (fun path request ↦ { request with instruction := some path })
    "Path to a text file with a custom instruction"]

def numbers : List Parameter := [
  valued "max-tokens" none "NOTES2GUIDE_MAX_TOKENS" Value.natural
    (fun maxTokens request ↦ { request with maxTokens }) "Max output tokens for the guide",
  valued "temperature" none "NOTES2GUIDE_TEMPERATURE" Value.decimal
    (fun temperature request ↦ { request with temperature }) "LLM temperature (0.0–2.0)",
  valued "max-retries" none "NOTES2GUIDE_MAX_RETRIES" Value.count
    (fun maxRetries request ↦ { request with maxRetries }) "Retries on generation failure",
  valued "concurrency" (some 'c') "NOTES2GUIDE_CONCURRENCY" Value.natural
    (fun concurrency request ↦ { request with concurrency }) "Inputs read at once",
  valued "max-file-mb" none "NOTES2GUIDE_MAX_FILE_MB" Value.natural
    (fun maxFileMb request ↦ { request with maxFileMb }) "Largest accepted input, in MiB",
  valued "download-timeout" none "NOTES2GUIDE_DOWNLOAD_TIMEOUT" Value.natural
    (fun downloadTimeout request ↦ { request with downloadTimeout })
    "HTTP download timeout in seconds",
  valued "api-timeout" none "NOTES2GUIDE_API_TIMEOUT" Value.natural
    (fun apiTimeout request ↦ { request with apiTimeout })
    "Per-attempt generation timeout in seconds"]

def switches : List Parameter := [
  switched "json" none "NOTES2GUIDE_JSON" (fun json request ↦ { request with json })
    "Print the compiled guide and stats as JSON instead of writing a PDF",
  switched "no-progress" none "NOTES2GUIDE_NO_PROGRESS"
    (fun noProgress request ↦ { request with noProgress }) "Disable progress output",
  switched "verbose" (some 'v') "NOTES2GUIDE_VERBOSE"
    (fun verbose request ↦ { request with verbose }) "Enable DEBUG-level tracing logs",
  switched "quiet" (some 'q') "NOTES2GUIDE_QUIET" (fun quiet request ↦ { request with quiet })
    "Suppress all output except errors"]

def inquiries : List Parameter := [
  { name := "help", letter := some 'h', action := .inquire .help, about := "Print help" },
  { name := "version", letter := some 'V', action := .inquire .version,
    about := "Print version" }]

/-- All parameters, in the order in which their variables are read. -/
def all : List Parameter := texts ++ numbers ++ switches ++ inquiries

def ofName? (name : Text) : Option Parameter := all.find? (·.name == name)

def ofLetter? (letter : Char) : Option Parameter := all.find? (·.letter == some letter)

end Parameter

end StudyGuide.Command
