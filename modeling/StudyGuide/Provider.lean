import StudyGuide.Model

/-!
The provider of the model: by the configuration, else by the environment. What names it most
closely decides; when nothing does, a built-in provider answers without a network. A service that
is named needs a model and may need a key; one that the environment alone gives has its own model.
-/

set_option autoImplicit false
set_option relaxedAutoImplicit false

namespace StudyGuide

/-- Variables and their values. -/
abbrev Environment := List (Text × Text)

namespace Environment

def value? (env : Environment) (name : Text) : Option Text :=
  (env.find? (·.1 == name)).map (·.2)

/-- The value of a variable that is set to something. -/
def nonempty? (env : Environment) (name : Text) : Option Text :=
  (value? env name).filter (· ≠ [])

end Environment

/-- Services that models run at. -/
inductive Service where
  | openai
  | anthropic
  | gemini
  | ollama
  | lmstudio
  /-- The built-in one. -/
  | mock
deriving DecidableEq, Repr

namespace Service

def name : Service → Text
  | openai => "openai"
  | anthropic => "anthropic"
  | gemini => "gemini"
  | ollama => "ollama"
  | lmstudio => "lmstudio"
  | mock => "mock"

/-- Names that services are known by, in lower case. -/
def names : List (Text × Service) := [
  ("openai", openai), ("anthropic", anthropic), ("claude", anthropic), ("gemini", gemini),
  ("google", gemini), ("ollama", ollama), ("lmstudio", lmstudio), ("lm-studio", lmstudio),
  ("lm_studio", lmstudio), ("mock", mock)]

/-- The service of a name; case does not matter. -/
def ofName? (name : Text) : Option Service :=
  (names.find? (·.1 == Text.lowercase name)).map (·.2)

/-- The model that is used when the environment alone picks the service. -/
def usualModel : Service → Text
  | openai => "gpt-5-mini"
  | anthropic => "claude-sonnet-4-5-20250929"
  | gemini => "gemini-2.5-flash"
  | ollama => "gemma3:12b"
  | lmstudio => "gemma2-9b-it"
  | mock => "mock-model"

/-- The variables that say where a service of the own network is, and which of its models to use. -/
def ownVariables? : Service → Option (Text × Text)
  | ollama => some ("OLLAMA_HOST", "OLLAMA_MODEL")
  | lmstudio => some ("LMSTUDIO_HOST", "LMSTUDIO_MODEL")
  | _ => none

/-- The environment tells of a service of the own network. -/
def isAnnounced (env : Environment) (service : Service) : Bool :=
  (ownVariables? service).any fun (host, model) ↦
    (env.value? host).isSome || (env.value? model).isSome

/-- The model of a service where only the environment is asked. -/
def modelIn (env : Environment) (service : Service) : Text :=
  ((ownVariables? service).bind fun (_, model) ↦ env.value? model).getD service.usualModel

end Service

structure Provider where
  name : Text
  model : Text
deriving DecidableEq, Repr

namespace Provider

/-- The variables that a provider may depend on. -/
def variableNames : List Text := [
  "EDGEQUAKE_LLM_PROVIDER", "EDGEQUAKE_MODEL", "GEMINI_API_KEY", "OPENAI_API_KEY",
  "ANTHROPIC_API_KEY", "ANTHROPIC_AUTH_TOKEN", "OLLAMA_HOST", "OLLAMA_MODEL", "LMSTUDIO_HOST",
  "LMSTUDIO_MODEL"]

def mock : Provider := ⟨Service.name .mock, Service.usualModel .mock⟩

/-- The model of a provider that is named without one. -/
def defaultModel? (provider : Text) : Option Text :=
  let name := Text.asciiLower provider
  if name = "gemini".toList ∨ name = "google".toList then some (Service.usualModel .gemini)
  else if name = "openai".toList then some "gpt-4.1-mini"
  else if name = "anthropic".toList then some "claude-sonnet-4-20250514"
  else none

def configurationError (reason : Text) : Text := "Configuration error: " ++ reason

/-- A provider that needs one of the keys, or what is missing for it. -/
def keyed (env : Environment) (keys : List Text) (missing : Text) (provider : Provider) :
    Except Text Provider :=
  if keys.any fun key ↦ (env.value? key).isSome then .ok provider
  else .error (configurationError missing)

/-- What a cloud project is missing for. -/
def projectMissing : Text :=
  "VertexAI requires GOOGLE_CLOUD_PROJECT environment variable. " ++
    "Run: export GOOGLE_CLOUD_PROJECT=your-project-id"

/-- Models with this in front run in a cloud project, which no key stands for. -/
def projectMark : Text := "vertexai:"

/-- The provider of a name with a model, or why there is none. -/
def named (env : Environment) (name model : Text) : Except Text Provider :=
  match Service.ofName? name with
  | some .mock => .ok mock
  | some .openai =>
    keyed env ["OPENAI_API_KEY"] "OPENAI_API_KEY required for OpenAI LLM provider"
      ⟨"openai", model⟩
  | some .anthropic =>
    keyed env ["ANTHROPIC_API_KEY"] "ANTHROPIC_API_KEY required for Anthropic LLM provider"
      ⟨"anthropic", model⟩
  | some .gemini =>
    if Text.startsWith model projectMark then .error (configurationError projectMissing)
    else keyed env ["GEMINI_API_KEY"] projectMissing ⟨"gemini", model⟩
  | some service => .ok ⟨service.name, model⟩
  | none =>
    .error (configurationError
      ("Unknown LLM provider: " ++ name ++ ". Valid: openai, ollama, lmstudio, mock"))

/-- What stands in the place of a key where there is none. -/
def placeholderKey : Text := "test-key"

def isUsableKey (key : Text) : Bool := key != [] && key != placeholderKey

/-- The provider that the environment gives for a service. -/
def ofService (env : Environment) (service : Service) : Except Text Provider :=
  let provider : Provider := ⟨service.name, service.modelIn env⟩
  match service with
  | .openai =>
    match env.value? "OPENAI_API_KEY" with
    | none => .error (configurationError "OPENAI_API_KEY not set for OpenAI provider")
    | some key =>
      if isUsableKey key then .ok provider
      else .error (configurationError "OPENAI_API_KEY is empty or invalid")
  | .anthropic =>
    keyed env ["ANTHROPIC_API_KEY", "ANTHROPIC_AUTH_TOKEN"]
      "ANTHROPIC_API_KEY or ANTHROPIC_AUTH_TOKEN environment variable not set" provider
  | _ => named env provider.name provider.model

/-- The service that the environment has an address, a model or a key for, else the built-in
one. -/
def detected (env : Environment) : Service :=
  if Service.isAnnounced env .ollama then .ollama
  else if Service.isAnnounced env .lmstudio then .lmstudio
  else if (env.nonempty? "ANTHROPIC_API_KEY").isSome then .anthropic
  else if (env.value? "OPENAI_API_KEY").any isUsableKey then .openai
  else .mock

/-- The provider that the environment alone asks for. -/
def ofEnvironment (env : Environment) : Except Text Provider :=
  match env.value? "EDGEQUAKE_LLM_PROVIDER" with
  | none => ofService env (detected env)
  | some name =>
    match Service.ofName? name with
    | some service => ofService env service
    | none =>
      .error (configurationError
        ("Unknown provider type: " ++ name ++
          ". Valid options: openai, anthropic, ollama, lmstudio, mock"))

/-- The provider of a name; what is missing for it is a hint to the user. -/
def create (env : Environment) (name model : Text) : Except GuideError Provider :=
  (named env name model).mapError (.providerNotConfigured name)

def autoHint (reason : Text) : Text :=
  "No LLM provider could be auto-detected from environment.\n" ++
    "Set GEMINI_API_KEY, OPENAI_API_KEY or ANTHROPIC_API_KEY, or pass --provider.\nError: " ++
    reason

/-- The provider of a run: the one that is named, then a pair of variables, then the key of the
default service, then whatever the environment asks for. -/
def resolve (env : Environment) (config : Config) : Except GuideError Provider :=
  match config.providerName with
  | some name =>
    match config.model.or (defaultModel? name) with
    | some model => create env name model
    | none =>
      .error (.providerNotConfigured name "No default model for this provider; pass --model.")
  | none =>
    match env.nonempty? "EDGEQUAKE_LLM_PROVIDER", env.nonempty? "EDGEQUAKE_MODEL" with
    | some name, some model => create env name model
    | _, _ =>
      match env.nonempty? "GEMINI_API_KEY" with
      | some _ => create env "gemini" (config.model.getD (Service.usualModel .gemini))
      | none =>
        (ofEnvironment env).mapError fun reason ↦ .providerNotConfigured "auto" (autoHint reason)

/-- The model behind a provider. Only the built-in one answers without a network. -/
def answers (provider : Provider) : Model := fun _ ↦
  if provider = mock then
    { outcome := .ok { text := "Mock response", inputTokens := 0, outputTokens := 0 } }
  else { outcome := .error (ServiceFailure.network "service unreachable").toError }

end Provider

end StudyGuide
