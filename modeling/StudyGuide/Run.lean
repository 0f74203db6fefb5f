import StudyGuide.Arrivals
import StudyGuide.Credits
import StudyGuide.Guide
import StudyGuide.Provider
import StudyGuide.Retry

/-!
A run, from inputs to a guide. The credit gate comes before anything is read, and the debit after
the guide is finished: who does not get a guide does not pay, and a guide that cannot be paid is
discarded.
-/

set_option autoImplicit false
set_option relaxedAutoImplicit false

namespace StudyGuide

/-- What a run works with. -/
structure Workshop where
  /-- Reads an input at a position. -/
  resolve : Nat → Text → Except GuideError Media
  /-- Which of the inputs in hand is read first, again and again. -/
  choices : List Nat := []
  model : Model
  render : Renderer := .standard

/-- What the making of a guide came to, what watchers were told, and the calls of the model. -/
structure Making where
  result : Except GuideError Guide
  events : List Event
  calls : List Call

namespace Run

/-! ### Reading -/

def arrivals (workshop : Workshop) (config : Config) (inputs : List Text) : List Arrival :=
  Arrival.all workshop.resolve (max config.concurrency 1) workshop.choices inputs

/-- What watchers are told when the reading of an input ends. -/
def arrivalEvent (total : Nat) (arrival : Arrival) : Event :=
  match arrival.outcome with
  | .ok media => .encoded arrival.index total media.bytes.length
  | .error error => .failed arrival.index total error.message

def readingEvents (total : Nat) (arrivals : List Arrival) : List Event :=
  .encodeStart total :: arrivals.map (arrivalEvent total)

/-! ### Making -/

/-- Asks the model with everything that was read. -/
def ask (workshop : Workshop) (config : Config) (media : List Media) : Retry.Outcome :=
  Retry.run workshop.model config.retryPolicy (media.map Media.toPart) config.instructionText

/-- What is known of a guide before it is compiled. -/
def statsOf (media : List Media) (generation : Generation) (retries : Nat) : Stats :=
  { Stats.ofMedia media with
    inputTokens := generation.inputTokens
    outputTokens := generation.outputTokens
    retries }

/-- Makes a guide of what was read; `told` is what watchers have been told so far. -/
def makeFrom (workshop : Workshop) (config : Config) (told : List Event) (media : List Media) :
    Making :=
  let told := told ++ [.generationStart media.length]
  let asked := ask workshop config media
  match asked.result with
  | .error error => { result := .error error, events := told, calls := asked.calls }
  | .ok (generation, retries) =>
    let (compiled, guide) :=
      Guide.build workshop.render config generation.text (statsOf media generation retries)
    { result := guide
      events := told ++
        .generationComplete (Text.byteLength generation.text) retries :: compiled
      calls := asked.calls }

/-- Makes a guide, without a thought of credits. -/
def make (workshop : Workshop) (config : Config) (inputs : List Text) : Making :=
  let arrivals := arrivals workshop config inputs
  let told := readingEvents inputs.length arrivals
  match Arrival.collect arrivals with
  | .error error => { result := .error error, events := told, calls := [] }
  | .ok media => makeFrom workshop config told media

/-! ### Credits -/

/-- Whether a run may begin; without a ledger any may. -/
def gate : Option Ledger → Except GuideError Unit
  | none => .ok ()
  | some ledger => ledger.gate.map fun _ ↦ ()

def withRemaining (guide : Guide) (credits : Int) : Guide :=
  { guide with stats := { guide.stats with remainingCredits := some credits } }

/-- Pays for a finished guide. -/
def pay (ledger : Option Ledger) (result : Except GuideError Guide) :
    Option Ledger × Except GuideError Guide :=
  match ledger, result with
  | some ledger, .ok guide =>
    let (ledger, debited) := ledger.debit
    (some ledger, debited.map (withRemaining guide))
  | ledger, result => (ledger, result)

/-! ### Runs -/

/-- What a run came to, with the ledger after it. -/
structure Outcome extends Making where
  ledger : Option Ledger

/-- A run that ends before it reads anything. -/
def refuse (ledger : Option Ledger) (error : GuideError) : Outcome :=
  { result := .error error, events := [], calls := [], ledger }

def run (workshop : Workshop) (config : Config) (inputs : List Text) (ledger : Option Ledger) :
    Outcome :=
  if inputs = [] then refuse ledger .noInputs
  else match gate ledger with
    | .error error => refuse ledger error
    | .ok () =>
      let making := make workshop config inputs
      let (ledger, result) := pay ledger making.result
      { making with result, ledger }

/-- A run with the model of the provider that the configuration or the environment asks for. -/
def runByProvider (env : Environment) (resolve : Nat → Text → Except GuideError Media)
    (config : Config) (inputs : List Text) (ledger : Option Ledger) : Outcome :=
  if inputs = [] then refuse ledger .noInputs
  else match Provider.resolve env config with
    | .error error => refuse ledger error
    | .ok provider => run { resolve, model := provider.answers } config inputs ledger

end Run

end StudyGuide
