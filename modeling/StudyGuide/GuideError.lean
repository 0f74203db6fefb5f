import StudyGuide.Text.Quoted

/-!
What can go wrong on the way to a guide, and what the user is told.
-/

set_option autoImplicit false
set_option relaxedAutoImplicit false

namespace StudyGuide

inductive GuideError where
  | fileNotFound (path : Text)
  | permissionDenied (path : Text)
  /-- The input is neither a file nor an address. -/
  | invalidInput (input : Text)
  | downloadFailed (url reason : Text)
  | downloadTimeout (url : Text) (seconds : Nat)
  /-- The input is neither an accepted image nor an accepted recording. -/
  | unsupportedMedia (source mimeType : Text)
  | fileTooLarge (source : Text) (size limit : Nat)
  | noInputs
  | noCredits (balance : Int)
  | ledgerUnavailable (reason : Text)
  | providerNotConfigured (provider hint : Text)
  /-- The model failed on every attempt. -/
  | generationFailed (attempts : Nat) (detail : Text)
  /-- The last attempt was not answered in time. -/
  | generationTimeout (seconds : Nat)
  | renderFailed (reason : Text)
  | outputWriteFailed (path cause : Text)
  | invalidConfig (reason : Text)
  | internal (reason : Text)
deriving DecidableEq, Repr

namespace GuideError

def message : GuideError → Text
  | fileNotFound path =>
    "Input file not found: '" ++ path ++ "'\nCheck the path exists and is readable."
  | permissionDenied path =>
    "Permission denied reading '" ++ path ++ "'\nTry: chmod +r " ++ Text.Quoted.encode path
  | invalidInput input =>
    "Invalid input '" ++ input ++ "': not a file path or a valid HTTP/HTTPS URL"
  | downloadFailed url reason =>
    "Failed to download '" ++ url ++ "': " ++ reason ++ "\nCheck your internet connection."
  | downloadTimeout url seconds =>
    "Download timed out after " ++ Text.ofNat seconds ++ "s for '" ++ url ++
      "'\nIncrease --download-timeout."
  | unsupportedMedia source mimeType =>
    "Unsupported media '" ++ source ++ "' (" ++ mimeType ++
      ")\nOnly images (png, jpeg, webp) and audio (mp3, wav, m4a, ogg) are accepted."
  | fileTooLarge source size limit =>
    "'" ++ source ++ "' is " ++ Text.ofNat size ++ " bytes, above the " ++ Text.ofNat limit ++
      "-byte limit for inline media"
  | noInputs => "No inputs given: add at least one photo or audio recording"
  | noCredits balance =>
    "No credits left (balance: " ++ Text.ofInt balance ++
      ").\nBuy more credits to keep generating guides."
  | ledgerUnavailable reason => "Credit ledger unavailable: " ++ reason
  | providerNotConfigured provider hint =>
    "LLM provider '" ++ provider ++ "' is not configured.\n" ++ hint
  | generationFailed attempts detail =>
    "The generation service is busy or unreachable after " ++ Text.ofNat attempts ++
      " attempt(s): " ++ detail ++ "\nPlease try again."
  | generationTimeout seconds =>
    "The generation service did not answer within " ++ Text.ofNat seconds ++
      "s.\nPlease try again."
  | renderFailed reason => "Failed to render the study guide PDF: " ++ reason
  | outputWriteFailed path cause => "Failed to write output file '" ++ path ++ "': " ++ cause
  | invalidConfig reason => "Invalid configuration: " ++ reason
  | internal reason => "Internal error: " ++ reason

/-- Whether the same request may succeed later. -/
def isRetryable : GuideError → Bool
  | generationFailed .. | generationTimeout .. | downloadFailed .. | downloadTimeout ..
  | ledgerUnavailable .. => true
  | _ => false

end GuideError

end StudyGuide
