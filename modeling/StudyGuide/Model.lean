import StudyGuide.Config
import StudyGuide.Media

/-!
The model that writes the guide. It is asked with the instruction and the inputs, and each call
is answered, or fails, after some time.
-/

set_option autoImplicit false
set_option relaxedAutoImplicit false

namespace StudyGuide

/-- The answer of a model. -/
structure Generation where
  text : Text
  inputTokens : Nat
  outputTokens : Nat
deriving DecidableEq, Repr

/-- How a model meets a call: the outcome, and the time until it is known. -/
structure Reply where
  outcome : Except GuideError Generation
  delayMs : Nat := 0

/-- The replies of a model to its calls, counted from zero. -/
abbrev Model := Nat → Reply

namespace Model

def exhausted : Reply where
  outcome := .error (.generationFailed 1 "script exhausted")

/-- A model that replies by a script and fails after its end. -/
def ofScript (replies : List Reply) : Model := fun call ↦ replies.getD call exhausted

end Model

/-- Why the service of a provider did not answer. -/
inductive ServiceFailure where
  | api (detail : Text)
  | rateLimited (detail : Text)
  | authentication (detail : Text)
  | network (detail : Text)
  | timeout
deriving DecidableEq, Repr

namespace ServiceFailure

def message : ServiceFailure → Text
  | api detail => "API error: " ++ detail
  | rateLimited detail => "Rate limit exceeded: " ++ detail
  | authentication detail => "Authentication error: " ++ detail
  | network detail => "Network error: " ++ detail
  | timeout => "Request timed out"

/-- A failed call counts as one attempt. -/
def toError (failure : ServiceFailure) : GuideError := .generationFailed 1 failure.message

end ServiceFailure

/-- The message that a call sends to the service of a provider. -/
structure ChatRequest where
  content : Text
  /-- The inputs, if there are any. -/
  attachments : Option (List MediaPart)
  temperature : Float32
  maxTokens : Nat

def ChatRequest.of (config : Config) (parts : List MediaPart) (instruction : Text) :
    ChatRequest where
  content := instruction
  attachments := if parts = [] then none else some parts
  temperature := config.temperature
  maxTokens := config.maxTokens

end StudyGuide
