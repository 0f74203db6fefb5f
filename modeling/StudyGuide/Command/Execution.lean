import StudyGuide.Command.Arguments
import StudyGuide.Command.Failure
import StudyGuide.Command.Summary
import StudyGuide.Run

/-!
The command from its arguments to its end. It reads the instruction, makes a guide, keeps the
answer of the model if it is asked to, and prints the guide as JSON or saves its file.
-/

set_option autoImplicit false
set_option relaxedAutoImplicit false

namespace StudyGuide.Command

/-- What a command leaves: the files, its exit code, and what it prints, which may tell how long
it took. -/
structure Ending where
  store : FileStore
  code : Nat
  /-- On standard output. -/
  output : Timing → Text
  /-- On standard error. -/
  messages : Timing → Text

namespace Ending

def fail (store : FileStore) (told : Text) (failure : Failure) : Ending where
  store
  code := 1
  output := fun _ ↦ []
  messages := fun _ ↦ told ++ failure.report

/-- The end of a command that does not start. What is wrong is told without control sequences,
also those of the user, unless the environment asks for them. -/
def stopped (env : Environment) (store : FileStore) : Stop → Ending
  | .inquiry inquiry =>
    { store, code := 0, output := fun _ ↦ printed [Usage.answer inquiry], messages := fun _ ↦ [] }
  | .misuse error =>
    let message := printed [error.message]
    { store
      code := 2
      output := fun _ ↦ []
      messages := fun _ ↦ if forcesStyles env then message else Text.visible message }

end Ending

/-! ### Stages -/

/-- The settings of a request, checked. -/
def settings (store : FileStore) (request : Request) : Except Failure Config := do
  let instruction ← match request.instruction with
    | none => pure none
    | some path =>
      match store.readText path with
      | .ok text => pure (some text)
      | .error fault => throw (.ofFile "Failed to read instruction from" path fault)
  ((request.config instruction).check).mapError (.ofError "Invalid configuration")

/-- The guide of a request, and what watchers were told. -/
def makeGuide (env : Environment) (store : FileStore) (request : Request) (config : Config) :
    List Event × Except Failure Guide :=
  match request.fromText with
  | some path =>
    match store.readText path with
    | .error fault => ([], .error (.ofFile "Failed to read model answer from" path fault))
    | .ok text =>
      let (events, guide) := Guide.ofText config text
      (events, guide.mapError (.ofError "Compilation failed"))
  | none =>
    let reader : Media.Reader := { store, limit := config.maxFileBytes }
    let outcome := Run.runByProvider env (Media.resolve reader) config request.inputs
      (request.credits.map fun balance ↦ { balance })
    (outcome.events, outcome.result.mapError (.ofError "Guide generation failed"))

/-- Keeps the answer of the model if that is asked for. -/
def keepAnswer (store : FileStore) (request : Request) (guide : Guide) :
    Except Failure FileStore :=
  match request.saveText with
  | none => .ok store
  | some path =>
    (store.writeFile path (.ofText guide.rawText)).mapError
      (.ofFile "Failed to save model answer to" path)

/-- Prints a guide or saves it. -/
def deliver (store : FileStore) (told : Text) (request : Request) (guide : Guide) : Ending :=
  if request.json then
    { store
      code := 0
      output := fun timing ↦ printed [(guide.toJson timing).text]
      messages := fun _ ↦ told }
  else
    let path := guide.pathIn store request.output
    match guide.save store request.output with
    | (store, .error error) => .fail store told (.ofError "Failed to write PDF" error)
    | (store, .ok ()) =>
      { store
        code := 0
        output := fun _ ↦ []
        messages := fun timing ↦
          told ++ if request.quiet then [] else printed (Summary.lines guide path timing) }

def execute (env : Environment) (store : FileStore) (request : Request) : Ending :=
  match settings store request with
  | .error failure => .fail store [] failure
  | .ok config =>
    let (events, made) := makeGuide env store request config
    let told := if request.showsProgress then printed (events.flatMap Summary.eventLines) else []
    match made with
    | .error failure => .fail store told failure
    | .ok guide =>
      match keepAnswer store request guide with
      | .error failure => .fail store told failure
      | .ok store => deliver store told request guide

/-- The command with its arguments, in an environment and among files. -/
def run (env : Environment) (store : FileStore) (arguments : List Text) : Ending :=
  match request env arguments with
  | .error stop => .stopped env store stop
  | .ok request => execute env store request

end StudyGuide.Command
