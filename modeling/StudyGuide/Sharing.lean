import StudyGuide.Run

/-!
Runs that share one balance. Each run goes on step by step, and the runs take turns in any order:
`Stage.next` is one step of one run, with the balance as the others have left it, and
`Sharing.run` is a whole schedule of steps. The debits are written down as they are made.
-/

set_option autoImplicit false
set_option relaxedAutoImplicit false

namespace StudyGuide

/-- Who asks for a guide: where inputs are read, which model is asked, and with what. -/
structure Client where
  reader : Media.Reader
  /-- Which of the inputs in hand is read first, again and again. -/
  choices : List Nat := []
  model : Model
  config : Config
  inputs : List Text

namespace Client

def workshop (client : Client) : Workshop where
  resolve := Media.resolve client.reader
  choices := client.choices
  model := client.model

/-- What the making of the guide comes to, whoever pays for it. -/
def making (client : Client) : Except GuideError Guide :=
  (Run.make client.workshop client.config client.inputs).result

/-- What the run comes to when it has the ledger to itself, rivals apart. -/
def result (client : Client) (ledger : Ledger) : Except GuideError Guide :=
  (Run.run client.workshop client.config client.inputs (some ledger)).result

end Client

/-- How far a run has come. -/
inductive Stage where
  | waiting
  /-- The gate has let the run in. -/
  | admitted
  /-- The guide is made, and not yet paid. -/
  | finished (guide : Guide)
  /-- The debit took nothing. -/
  | unpaid
  | ended (result : Except GuideError Guide)

/-- What one step of a run does. -/
structure Move where
  stage : Stage
  balance : Int
  /-- What a debit said, if the step is one. -/
  debit : Option (Option Int) := none

/-- The next step of a run. -/
def Stage.next (client : Client) (balance : Int) : Stage → Move
  | waiting =>
    if client.inputs = [] then { stage := ended (.error .noInputs), balance }
    else match Credits.gate balance with
      | .error error => { stage := ended (.error error), balance }
      | .ok _ => { stage := admitted, balance }
  | admitted =>
    match client.making with
    | .error error => { stage := ended (.error error), balance }
    | .ok guide => { stage := finished guide, balance }
  | finished guide =>
    match Credits.take balance with
    | (rest, some left) =>
      { stage := ended (.ok (Run.withRemaining guide left))
        balance := rest
        debit := some (some left) }
    | (rest, none) => { stage := unpaid, balance := rest, debit := some none }
  | unpaid => { stage := ended (.error (.noCredits balance)), balance }
  | ended result => { stage := ended result, balance }

/-- Runs that share a balance. -/
structure Sharing (count : Nat) where
  balance : Int
  stages : Fin count → Stage := fun _ ↦ .waiting
  /-- The debits so far: who made it, and what it said. -/
  debits : List (Fin count × Option Int) := []

namespace Sharing

variable {count : Nat}

/-- One run takes its next step. -/
def step (clients : Fin count → Client) (sharing : Sharing count) (turn : Fin count) :
    Sharing count :=
  let move := (sharing.stages turn).next (clients turn) sharing.balance
  { balance := move.balance
    stages := fun index ↦ if index = turn then move.stage else sharing.stages index
    debits := sharing.debits ++ move.debit.toList.map (Prod.mk turn) }

/-- The runs take the turns of a schedule. -/
def run (clients : Fin count → Client) (start : Int) (schedule : List (Fin count)) :
    Sharing count :=
  schedule.foldl (step clients) { balance := start }

/-- What the debits of one run said. -/
def debitsOf (sharing : Sharing count) (index : Fin count) : List (Option Int) :=
  (sharing.debits.filter (·.1 = index)).map Prod.snd

/-- The debits that took a credit: who took it, and the balance after that. -/
def takings (sharing : Sharing count) : List (Fin count × Int) :=
  sharing.debits.filterMap fun debit ↦ debit.2.map (Prod.mk debit.1)

/-- The guide that a run has given out. -/
def delivered? (sharing : Sharing count) (index : Fin count) : Option Guide :=
  match sharing.stages index with
  | .ended (.ok guide) => some guide
  | _ => none

end Sharing

end StudyGuide
