import StudyGuide.Media

/-!
Inputs are read several at once, and their reading may end in any order. What has been read is put
back into the order of the inputs, so that nothing later can tell in which order it came.
-/

set_option autoImplicit false
set_option relaxedAutoImplicit false

namespace StudyGuide

/-- The end of the reading of one input. -/
structure Arrival where
  /-- Position of the input. -/
  index : Nat
  outcome : Except GuideError Media

namespace Arrival

/-- The order in which things end of which at most `limit` are in hand at once, each next one being
taken up when another ends. A choice says which of those in hand ends next; when there are no more
choices, the first one does. -/
def order {α : Type} (limit : Nat) : List Nat → List α → List α
  | [], waiting => waiting
  | choice :: choices, waiting =>
    let place := choice % min limit waiting.length
    match waiting[place]? with
    | none => waiting
    | some next => next :: order limit choices (waiting.eraseIdx place)

/-- Every input is tried, whatever becomes of the others. -/
def all (resolve : Nat → Text → Except GuideError Media) (limit : Nat) (choices : List Nat)
    (inputs : List Text) : List Arrival :=
  (order limit choices inputs.zipIdx).map fun (source, index) ↦
    { index, outcome := resolve index source }

def sorted (arrivals : List Arrival) : List Arrival :=
  arrivals.mergeSort fun a b ↦ decide (a.index ≤ b.index)

/-- Everything that was read, in the order of the inputs, or the first error in that order. -/
def collect (arrivals : List Arrival) : Except GuideError (List Media) :=
  (sorted arrivals).mapM Arrival.outcome

end Arrival

end StudyGuide
