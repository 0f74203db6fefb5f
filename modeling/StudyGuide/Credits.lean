import StudyGuide.GuideError

/-!
Credits. A guide costs one credit. The balance is looked at before a run begins and debited when
the guide is done; the debit takes one credit if any is left, in one step, so that two runs never
spend the same credit.
-/

set_option autoImplicit false
set_option relaxedAutoImplicit false

namespace StudyGuide

namespace Credits

/-- Whether a run may begin at this balance. -/
def gate (balance : Int) : Except GuideError Int :=
  if balance ≤ 0 then .error (.noCredits balance) else .ok balance

/-- Takes one credit if any is left: the balance after that, and what the taker is told. -/
def take (balance : Int) : Int × Option Int :=
  if 0 < balance then (balance - 1, some (balance - 1)) else (balance, none)

/-- Takes one credit, or says how many there are. -/
def debit (balance : Int) : Int × Except GuideError Int :=
  match take balance with
  | (rest, some left) => (rest, .ok left)
  | (rest, none) => (rest, .error (.noCredits rest))

end Credits

/-- A stored balance that others draw on too. -/
structure Ledger where
  balance : Int
  /-- How many debits of others come just before each of ours. -/
  rivals : Nat := 0
  /-- Why the balance cannot be read, if it cannot. -/
  outage : Option Text := none

namespace Ledger

def read (ledger : Ledger) : Except GuideError Int :=
  match ledger.outage with
  | none => .ok ledger.balance
  | some reason => .error (.ledgerUnavailable reason)

def gate (ledger : Ledger) : Except GuideError Int := ledger.read.bind Credits.gate

/-- The balance after so many debits of others. -/
def afterRivals (balance : Int) : Nat → Int
  | 0 => balance
  | count + 1 => afterRivals (Credits.take balance).1 count

/-- Takes one credit, after the rivals; if none is left the balance is read once more. -/
def debit (ledger : Ledger) : Ledger × Except GuideError Int :=
  let (rest, taken) := Credits.take (afterRivals ledger.balance ledger.rivals)
  let ledger := { ledger with balance := rest }
  match taken with
  | some left => (ledger, .ok left)
  | none => (ledger, ledger.read.bind fun balance ↦ .error (.noCredits balance))

end Ledger

end StudyGuide
