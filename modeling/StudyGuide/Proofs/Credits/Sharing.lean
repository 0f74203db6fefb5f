import Mathlib.Data.Finset.Card
import Mathlib.Data.Fintype.Basic
import StudyGuide.Proofs.Credits.Payment
import StudyGuide.Proofs.Credits.Refusals
import StudyGuide.Sharing

/-!
Runs that share a balance keep its books, in whatever order they take their turns. A long making
lies between the gate and the debit, so that several runs may be let in on the same last credit;
still no guide is free, and no credit is lost (`Balanced`, `run_balanced`).

What a step does is said once (`Stage.Steps`). From it come the two halves of the argument: a step
keeps the account of the run that takes it (`Accounted.of_own_step`) and those of the others, whose
balance moves under them (`Accounted.of_step`). `Sound` joins the accounts of all runs with the
history of the balance (`IsHistory`); every step keeps it, and so does every schedule (`sound_run`).
A run waits for no other, so that four turns bring it to its end (`ended_of_turns`).
-/

set_option autoImplicit false
set_option relaxedAutoImplicit false

namespace StudyGuide

/-! ### A run with rivals -/

namespace Ledger

/-- The last rival before a debit takes from what the others have left. -/
theorem afterRivals_succ (balance : Int) (rivals : Nat) :
    afterRivals balance (rivals + 1) = (Credits.take (afterRivals balance rivals)).1 := by
  induction rivals generalizing balance with
  | zero => rfl
  | succ rivals ih => exact ih (Credits.take balance).1

end Ledger

namespace Client

variable {client : Client} {balance seen : Int}

theorem notOfCredits_making (client : Client) : NotOfCredits client.making :=
  Run.notOfCredits_make (Media.notOfCredits_resolve client.reader) (fun _ ↦ NotOfCredits.of_ok _)
    client.config client.inputs

theorem result_of_noInputs (ledger : Ledger) (h : client.inputs = []) :
    client.result ledger = .error .noInputs := by
  unfold result Run.run
  rw [if_pos h]
  rfl

theorem result_of_refused (hinputs : client.inputs ≠ []) (h : balance ≤ 0) :
    client.result { balance } = .error (.noCredits balance) := by
  have hgate : Run.gate (some { balance }) = .error (.noCredits balance) := by
    simp [Run.gate, Ledger.gate, Ledger.read, Except.bind, Except.map, Credits.gate, h]
  unfold result Run.run
  rw [if_neg hinputs, hgate]
  rfl

/-- A run that the gate lets in pays for what it makes. -/
theorem result_of_admitted (hinputs : client.inputs ≠ []) (hseen : 0 < seen) (rivals : Nat) :
    client.result { balance := seen, rivals } =
      (Run.pay (some { balance := seen, rivals }) client.making).2 := by
  have hopen : Run.GateOpen (some { balance := seen, rivals }) := by
    rintro before ⟨⟩
    exact ⟨rfl, hseen⟩
  have hgate := (Run.gate_eq_ok_iff _).mpr hopen
  unfold result Run.run
  rw [if_neg hinputs, hgate]
  rfl

/-- The gate has let the run in at some balance, and the others have left this one since. -/
def Admitted (client : Client) (balance : Int) : Prop :=
  client.inputs ≠ [] ∧
    ∃ seen rivals, 0 < seen ∧ Ledger.afterRivals seen rivals = balance

theorem Admitted.take (h : client.Admitted balance) : client.Admitted (Credits.take balance).1 := by
  obtain ⟨hinputs, seen, rivals, hseen, rfl⟩ := h
  exact ⟨hinputs, seen, rivals + 1, hseen, Ledger.afterRivals_succ seen rivals⟩

/-- The run ends as it would with a ledger of its own, for some balance at the gate and some number
of rivals before the debit. -/
def EndsWith (client : Client) (result : Except GuideError Guide) : Prop :=
  ∃ seen rivals, client.result { balance := seen, rivals } = result

theorem endsWith_error {error : GuideError} (h : client.Admitted balance)
    (hmaking : client.making = .error error) : client.EndsWith (.error error) := by
  obtain ⟨hinputs, seen, rivals, hseen, -⟩ := h
  refine ⟨seen, rivals, ?_⟩
  rw [result_of_admitted hinputs hseen, hmaking]
  rfl

theorem endsWith_paid {guide : Guide} (h : client.Admitted balance)
    (hmaking : client.making = .ok guide) (hleft : 0 < balance) :
    client.EndsWith (.ok (Run.withRemaining guide (balance - 1))) := by
  obtain ⟨hinputs, seen, rivals, hseen, rfl⟩ := h
  refine ⟨seen, rivals, ?_⟩
  rw [result_of_admitted hinputs hseen, hmaking]
  simp [Run.pay, Ledger.debit, Credits.take, hleft, Except.map]

theorem endsWith_unpaid {guide : Guide} (h : client.Admitted balance)
    (hmaking : client.making = .ok guide) (hnone : balance ≤ 0) :
    client.EndsWith (.error (.noCredits balance)) := by
  obtain ⟨hinputs, seen, rivals, hseen, rfl⟩ := h
  refine ⟨seen, rivals, ?_⟩
  rw [result_of_admitted hinputs hseen, hmaking]
  simp [Run.pay, Ledger.debit, Ledger.read, Credits.take, Int.not_lt.mpr hnone, Except.bind,
    Except.map]

end Client

/-! ### Steps -/

/-- Everything that a step of a run can do. -/
inductive Stage.Steps (client : Client) (balance : Int) : Stage → Move → Prop
  | noInputs (h : client.inputs = []) :
    Steps client balance .waiting { stage := .ended (.error .noInputs), balance }
  | refused (hinputs : client.inputs ≠ []) (h : balance ≤ 0) :
    Steps client balance .waiting { stage := .ended (.error (.noCredits balance)), balance }
  | admitted (hinputs : client.inputs ≠ []) (h : 0 < balance) :
    Steps client balance .waiting { stage := .admitted, balance }
  | failed {error : GuideError} (h : client.making = .error error) :
    Steps client balance .admitted { stage := .ended (.error error), balance }
  | finished {guide : Guide} (h : client.making = .ok guide) :
    Steps client balance .admitted { stage := .finished guide, balance }
  | paid {guide : Guide} (h : 0 < balance) :
    Steps client balance (.finished guide)
      { stage := .ended (.ok (Run.withRemaining guide (balance - 1)))
        balance := balance - 1
        debit := some (some (balance - 1)) }
  | missed {guide : Guide} (h : balance ≤ 0) :
    Steps client balance (.finished guide) { stage := .unpaid, balance, debit := some none }
  | reported :
    Steps client balance .unpaid { stage := .ended (.error (.noCredits balance)), balance }
  | rested {result : Except GuideError Guide} :
    Steps client balance (.ended result) { stage := .ended result, balance }

namespace Stage

theorem steps_next (client : Client) (balance : Int) (stage : Stage) :
    Steps client balance stage (stage.next client balance) := by
  cases stage with
  | waiting =>
    unfold next
    dsimp only
    by_cases hinputs : client.inputs = []
    · rw [if_pos hinputs]
      exact .noInputs hinputs
    · rw [if_neg hinputs]
      unfold Credits.gate
      by_cases hempty : balance ≤ 0
      · rw [if_pos hempty]
        exact .refused hinputs hempty
      · rw [if_neg hempty]
        exact .admitted hinputs (Int.not_le.mp hempty)
  | admitted =>
    unfold next
    cases hmaking : client.making with
    | error error => exact .failed hmaking
    | ok guide => exact .finished hmaking
  | finished guide =>
    unfold next Credits.take
    by_cases hleft : 0 < balance
    · rw [if_pos hleft]
      exact .paid hleft
    · rw [if_neg hleft]
      exact .missed (Int.not_lt.mp hleft)
  | unpaid => exact .reported
  | ended result => exact .rested

variable {client : Client} {balance : Int} {stage : Stage} {move : Move}

/-- A step leaves the balance or takes a credit from it, and its debits say which. -/
theorem Steps.debit_cases (h : Steps client balance stage move) :
    (move.balance = balance ∧ move.debit.join = none) ∨
      (0 < balance ∧ move.balance = balance - 1 ∧ move.debit.join = some (balance - 1)) := by
  cases h with
  | paid h => exact Or.inr ⟨h, rfl, rfl⟩
  | _ => exact Or.inl ⟨rfl, rfl⟩

/-- The most turns that a run can still need. -/
def turnsLeft : Stage → Nat
  | waiting => 4
  | admitted => 3
  | finished _ => 2
  | unpaid => 1
  | ended _ => 0

theorem Steps.turnsLeft_le (h : Steps client balance stage move) :
    move.stage.turnsLeft ≤ stage.turnsLeft - 1 := by
  cases h <;> simp [turnsLeft]

theorem turnsLeft_eq_zero (h : stage.turnsLeft = 0) : ∃ result, stage = .ended result := by
  cases stage with
  | ended result => exact ⟨result, rfl⟩
  | _ => contradiction

end Stage

open Stage

/-! ### The account of a run -/

/-- What is known of a run at a balance, with what its debits have said so far. -/
inductive Accounted (client : Client) (balance : Int) : List (Option Int) → Stage → Prop
  | waiting : Accounted client balance [] .waiting
  | admitted (h : client.Admitted balance) : Accounted client balance [] .admitted
  | finished {guide : Guide} (h : client.Admitted balance) (hmaking : client.making = .ok guide) :
    Accounted client balance [] (.finished guide)
  | unpaid {guide : Guide} (h : client.Admitted balance) (hmaking : client.making = .ok guide)
      (hnone : balance ≤ 0) :
    Accounted client balance [none] .unpaid
  | delivered {guide : Guide} {left : Int} (hleft : guide.stats.remainingCredits = some left)
      (hends : client.EndsWith (.ok guide)) :
    Accounted client balance [some left] (.ended (.ok guide))
  | failed {debits : List (Option Int)} {error : GuideError} (hdebits : ∀ left, some left ∉ debits)
      (hlength : debits.length ≤ 1) (hcredits : ∀ left, error = .noCredits left → left ≤ 0)
      (hends : client.EndsWith (.error error)) :
    Accounted client balance debits (.ended (.error error))

namespace Accounted

variable {client other : Client} {balance : Int} {debits : List (Option Int)}
  {stage otherStage : Stage} {move : Move}

/-- A step keeps the account of the run that takes it. -/
theorem of_own_step (h : Accounted client balance debits stage)
    (hstep : Steps client balance stage move) :
    Accounted client move.balance (debits ++ move.debit.toList) move.stage := by
  cases hstep with
  | noInputs hinputs =>
    cases h
    exact .failed (by simp) (by simp) (by simp) ⟨0, 0, Client.result_of_noInputs _ hinputs⟩
  | refused hinputs hempty =>
    cases h
    refine .failed (by simp) (by simp) (fun left heq ↦ ?_)
      ⟨balance, 0, Client.result_of_refused hinputs hempty⟩
    obtain rfl := GuideError.noCredits.inj heq
    exact hempty
  | admitted hinputs hleft =>
    cases h
    exact .admitted ⟨hinputs, balance, 0, hleft, rfl⟩
  | failed hmaking =>
    cases h with
    | admitted hadmitted =>
      refine .failed (by simp) (by simp) (fun left heq ↦ ?_)
        (Client.endsWith_error hadmitted hmaking)
      rw [heq] at hmaking
      exact absurd hmaking (client.notOfCredits_making left)
  | finished hmaking =>
    cases h with
    | admitted hadmitted => exact .finished hadmitted hmaking
  | paid hleft =>
    cases h with
    | finished hadmitted hmaking =>
      exact .delivered rfl (Client.endsWith_paid hadmitted hmaking hleft)
  | missed hnone =>
    cases h with
    | finished hadmitted hmaking => exact .unpaid hadmitted hmaking hnone
  | reported =>
    cases h with
    | unpaid hadmitted hmaking hnone =>
      refine .failed (by simp) (by simp) (fun left heq ↦ ?_)
        (Client.endsWith_unpaid hadmitted hmaking hnone)
      obtain rfl := GuideError.noCredits.inj heq
      exact hnone
  | rested =>
    rw [Option.toList_none, List.append_nil]
    exact h

/-- A step of another run moves the balance, and the account stays. -/
theorem of_step (h : Accounted client balance debits stage)
    (hstep : Steps other balance otherStage move) :
    Accounted client move.balance debits stage := by
  have hadmitted : client.Admitted balance → client.Admitted move.balance := by
    intro hadmitted
    rcases hstep.debit_cases with ⟨hsame, -⟩ | ⟨hleft, htaken, -⟩
    · rw [hsame]
      exact hadmitted
    · have htake := hadmitted.take
      rw [Credits.take, if_pos hleft] at htake
      rw [htaken]
      exact htake
  have hle : move.balance ≤ balance := by
    rcases hstep.debit_cases with ⟨hsame, -⟩ | ⟨-, htaken, -⟩ <;> omega
  cases h with
  | waiting => exact .waiting
  | admitted h => exact .admitted (hadmitted h)
  | finished h hmaking => exact .finished (hadmitted h) hmaking
  | unpaid h hmaking hnone => exact .unpaid (hadmitted h) hmaking (Int.le_trans hle hnone)
  | delivered hleft hends => exact .delivered hleft hends
  | failed hdebits hlength hcredits hends => exact .failed hdebits hlength hcredits hends

theorem length_debits_le (h : Accounted client balance debits stage) : debits.length ≤ 1 := by
  cases h with
  | failed hdebits hlength hcredits hends => exact hlength
  | _ => simp

/-- Only a delivered guide has taken a credit. -/
theorem exists_guide_of_mem {left : Int} (h : Accounted client balance debits stage)
    (hmem : some left ∈ debits) :
    ∃ guide, stage = .ended (.ok guide) ∧ guide.stats.remainingCredits = some left := by
  cases h with
  | delivered hleft hends =>
    obtain rfl := Option.some.inj (List.mem_singleton.mp hmem)
    exact ⟨_, rfl, hleft⟩
  | failed hdebits hlength hcredits hends => exact absurd hmem (hdebits left)
  | _ => simp at hmem

theorem of_delivered {guide : Guide} (h : Accounted client balance debits (.ended (.ok guide))) :
    ∃ left, debits = [some left] ∧ guide.stats.remainingCredits = some left := by
  cases h with
  | delivered hleft hends => exact ⟨_, rfl, hleft⟩

theorem of_failed {error : GuideError}
    (h : Accounted client balance debits (.ended (.error error))) :
    (∀ left, some left ∉ debits) ∧ ∀ left, error = .noCredits left → left ≤ 0 := by
  cases h with
  | failed hdebits hlength hcredits hends => exact ⟨hdebits, hcredits⟩

theorem endsWith {result : Except GuideError Guide}
    (h : Accounted client balance debits (.ended result)) : client.EndsWith result := by
  cases h with
  | delivered hleft hends => exact hends
  | failed hdebits hlength hcredits hends => exact hends

end Accounted

/-! ### The history of the balance -/

/-- The balance has come from its start by these takings, which count it down by one each. -/
structure IsHistory (start balance : Int) (takings : List Int) : Prop where
  length : (takings.length : Int) = start - balance
  floor : min start 0 ≤ balance
  inOrder : takings = (List.range takings.length).map fun earlier : Nat ↦ start - 1 - earlier

namespace IsHistory

variable {start balance : Int} {takings : List Int}

theorem nil (start : Int) : IsHistory start start [] where
  length := by simp
  floor := Int.min_le_left _ _
  inOrder := rfl

theorem concat (h : IsHistory start balance takings) (hleft : 0 < balance) :
    IsHistory start (balance - 1) (takings ++ [balance - 1]) where
  length := by
    have hlength := h.length
    rw [List.length_append, List.length_singleton]
    omega
  floor := by omega
  inOrder := by
    have hlength := h.length
    have hlast : balance - 1 = start - 1 - (takings.length : Int) := by omega
    rw [List.length_append, List.length_singleton, List.range_succ, List.map_append, ← h.inOrder,
      hlast]
    rfl

theorem length_le (h : IsHistory start balance takings) :
    (takings.length : Int) ≤ max start 0 := by
  have hlength := h.length
  have hfloor := h.floor
  omega

end IsHistory

namespace Sharing

variable {count : Nat} {clients : Fin count → Client} {start : Int} {sharing : Sharing count}

/-- A step leaves the balance and the takings, or takes one credit and writes it down. -/
theorem step_cases (clients : Fin count → Client) (sharing : Sharing count) (turn : Fin count) :
    ((step clients sharing turn).balance = sharing.balance ∧
      (step clients sharing turn).takings = sharing.takings) ∨
    (0 < sharing.balance ∧ (step clients sharing turn).balance = sharing.balance - 1 ∧
      (step clients sharing turn).takings = sharing.takings ++ [(turn, sharing.balance - 1)]) := by
  have hstep := steps_next (clients turn) sharing.balance (sharing.stages turn)
  unfold step takings
  dsimp only
  rw [List.filterMap_append]
  generalize (sharing.stages turn).next (clients turn) sharing.balance = move at hstep ⊢
  have hlogged : (move.debit.toList.map (Prod.mk turn)).filterMap
      (fun debit ↦ debit.2.map (Prod.mk debit.1)) =
        move.debit.join.toList.map (Prod.mk turn) := by
    rcases move.debit with - | - | left <;> rfl
  rw [hlogged]
  rcases hstep.debit_cases with ⟨hsame, hnone⟩ | ⟨hleft, hone, hsome⟩
  · rw [hnone]
    exact Or.inl ⟨hsame, List.append_nil _⟩
  · rw [hsome]
    exact Or.inr ⟨hleft, hone, rfl⟩

theorem stages_step_self (clients : Fin count → Client) (sharing : Sharing count)
    (turn : Fin count) :
    (step clients sharing turn).stages turn =
      ((sharing.stages turn).next (clients turn) sharing.balance).stage :=
  if_pos rfl

theorem stages_step_of_ne (clients : Fin count → Client) (sharing : Sharing count)
    {turn index : Fin count} (h : index ≠ turn) :
    (step clients sharing turn).stages index = sharing.stages index :=
  if_neg h

theorem debitsOf_step_self (clients : Fin count → Client) (sharing : Sharing count)
    (turn : Fin count) :
    (step clients sharing turn).debitsOf turn =
      sharing.debitsOf turn ++
        ((sharing.stages turn).next (clients turn) sharing.balance).debit.toList := by
  unfold step debitsOf
  dsimp only
  cases ((sharing.stages turn).next (clients turn) sharing.balance).debit <;>
    simp [List.filter_append]

theorem debitsOf_step_of_ne (clients : Fin count → Client) (sharing : Sharing count)
    {turn index : Fin count} (h : index ≠ turn) :
    (step clients sharing turn).debitsOf index = sharing.debitsOf index := by
  unfold step debitsOf
  dsimp only
  cases ((sharing.stages turn).next (clients turn) sharing.balance).debit <;>
    simp [List.filter_append, h.symm]

theorem mem_takings {index : Fin count} {left : Int} :
    (index, left) ∈ sharing.takings ↔ some left ∈ sharing.debitsOf index := by
  simp [takings, debitsOf]

/-! ### Schedules -/

/-- The history of the balance, and the accounts of all runs. -/
structure Sound (clients : Fin count → Client) (start : Int) (sharing : Sharing count) : Prop where
  history : IsHistory start sharing.balance (sharing.takings.map Prod.snd)
  accounted : ∀ index,
    Accounted (clients index) sharing.balance (sharing.debitsOf index) (sharing.stages index)

theorem sound_start (clients : Fin count → Client) (start : Int) :
    Sound clients start { balance := start } where
  history := .nil start
  accounted := fun _ ↦ .waiting

/-- A step of any run keeps the books. -/
theorem sound_step (h : Sound clients start sharing) (turn : Fin count) :
    Sound clients start (step clients sharing turn) where
  history := by
    rcases step_cases clients sharing turn with ⟨hsame, htakings⟩ | ⟨hleft, hone, htakings⟩
    · rw [hsame, htakings]
      exact h.history
    · rw [hone, htakings, List.map_append]
      exact h.history.concat hleft
  accounted := fun index ↦ by
    have hstep := steps_next (clients turn) sharing.balance (sharing.stages turn)
    by_cases hindex : index = turn
    · obtain rfl := hindex
      rw [debitsOf_step_self, stages_step_self]
      exact (h.accounted index).of_own_step hstep
    · rw [debitsOf_step_of_ne clients sharing hindex, stages_step_of_ne clients sharing hindex]
      exact (h.accounted index).of_step hstep

theorem sound_foldl (h : Sound clients start sharing) (schedule : List (Fin count)) :
    Sound clients start (schedule.foldl (step clients) sharing) := by
  induction schedule generalizing sharing with
  | nil => exact h
  | cons turn rest ih => exact ih (sound_step h turn)

/-- Whatever the schedule, the books are kept at every moment. -/
theorem sound_run (clients : Fin count → Client) (start : Int) (schedule : List (Fin count)) :
    Sound clients start (run clients start schedule) :=
  sound_foldl (sound_start clients start) schedule

theorem turnsLeft_foldl (clients : Fin count → Client) (sharing : Sharing count)
    (schedule : List (Fin count)) (index : Fin count) :
    ((schedule.foldl (step clients) sharing).stages index).turnsLeft ≤
      (sharing.stages index).turnsLeft - schedule.count index := by
  induction schedule generalizing sharing with
  | nil => exact Nat.le_refl _
  | cons turn rest ih =>
    have hrest := ih (step clients sharing turn)
    have hstep := (steps_next (clients turn) sharing.balance (sharing.stages turn)).turnsLeft_le
    rw [List.foldl_cons]
    by_cases hturn : turn = index
    · obtain rfl := hturn
      rw [stages_step_self] at hrest
      rw [List.count_cons_self]
      omega
    · rw [stages_step_of_ne clients sharing (Ne.symm hturn)] at hrest
      rw [List.count_cons_of_ne hturn]
      exact hrest

/-- Four turns bring a run to its end, whatever the others do. -/
theorem ended_of_turns (clients : Fin count → Client) (start : Int) (schedule : List (Fin count))
    (index : Fin count) (h : 4 ≤ schedule.count index) :
    ∃ result, (run clients start schedule).stages index = .ended result := by
  have hleft := turnsLeft_foldl clients { balance := start } schedule index
  have hstart : (({ balance := start } : Sharing count).stages index).turnsLeft = 4 := rfl
  refine turnsLeft_eq_zero (Nat.le_zero.mp ?_)
  rw [hstart] at hleft
  exact Nat.le_trans hleft (by omega)

/-! ### The books -/

/-- The runs that have given out a guide. -/
def delivered (sharing : Sharing count) : Finset (Fin count) :=
  Finset.univ.filter fun index ↦ (sharing.delivered? index).isSome

theorem delivered?_eq_some_iff {index : Fin count} {guide : Guide} :
    sharing.delivered? index = some guide ↔ sharing.stages index = .ended (.ok guide) := by
  unfold delivered?
  split
  · rename_i heq
    simp [heq]
  · rename_i hne
    exact iff_of_false (by simp) (hne guide)

/-- No guide is free and no credit is lost. -/
structure Balanced (clients : Fin count → Client) (start : Int) (sharing : Sharing count) :
    Prop where
  /-- The balance falls by one with each debit that takes a credit, and in no other way. -/
  length_takings : (sharing.takings.length : Int) = start - sharing.balance
  floor : min start 0 ≤ sharing.balance
  one_debit : ∀ index, (sharing.debitsOf index).length ≤ 1
  /-- A run with a guide has taken a credit, and tells the balance after that. -/
  paid : ∀ index guide, sharing.stages index = .ended (.ok guide) →
    ∃ left, sharing.debitsOf index = [some left] ∧ guide.stats.remainingCredits = some left
  /-- A run that has failed has taken nothing. -/
  unpaid : ∀ index error, sharing.stages index = .ended (.error error) →
    ∀ left, some left ∉ sharing.debitsOf index
  /-- Who takes a credit has the guide for it. -/
  taken_delivered : ∀ index left, (index, left) ∈ sharing.takings →
    ∃ guide, sharing.stages index = .ended (.ok guide) ∧
      guide.stats.remainingCredits = some left
  card_delivered : (sharing.delivered.card : Int) = start - sharing.balance
  card_delivered_le : (sharing.delivered.card : Int) ≤ max start 0
  /-- In the order of the debits, the guides tell a balance that counts down from the start. -/
  remaining : (sharing.takings.map fun taking ↦
      (sharing.delivered? taking.1).bind (·.stats.remainingCredits)) =
    (List.range sharing.takings.length).map fun earlier : Nat ↦ some (start - 1 - earlier)
  noCredits_le : ∀ index balance, sharing.stages index = .ended (.error (.noCredits balance)) →
    balance ≤ 0
  /-- Each run ends as it would alone, for some balance at the gate and some rivals. -/
  ends : ∀ index result, sharing.stages index = .ended result →
    (clients index).EndsWith result

namespace Sound

theorem taken_delivered (h : Sound clients start sharing) {index : Fin count} {left : Int}
    (hmem : (index, left) ∈ sharing.takings) :
    ∃ guide, sharing.stages index = .ended (.ok guide) ∧
      guide.stats.remainingCredits = some left :=
  (h.accounted index).exists_guide_of_mem (mem_takings.mp hmem)

theorem of_ended (h : Sound clients start sharing) {index : Fin count}
    {result : Except GuideError Guide} (hended : sharing.stages index = .ended result) :
    Accounted (clients index) sharing.balance (sharing.debitsOf index) (.ended result) := by
  rw [← hended]
  exact h.accounted index

/-- No run takes two credits. -/
theorem nodup_takers (h : Sound clients start sharing) :
    (sharing.takings.map Prod.fst).Nodup := by
  have hnodup : (sharing.takings.map Prod.snd).Nodup := by
    rw [h.history.inOrder]
    exact List.nodup_range.map fun a b heq ↦ by omega
  refine List.Nodup.map_on ?_ (List.Nodup.of_map _ hnodup)
  rintro ⟨index, first⟩ hfirst ⟨_, second⟩ hsecond rfl
  obtain ⟨guide, hguide, hfirstLeft⟩ := h.taken_delivered hfirst
  obtain ⟨other, hother, hsecondLeft⟩ := h.taken_delivered hsecond
  obtain rfl : guide = other := by simpa [hguide] using hother
  rw [hfirstLeft] at hsecondLeft
  rw [Option.some.inj hsecondLeft]

theorem delivered_eq (h : Sound clients start sharing) :
    sharing.delivered = (sharing.takings.map Prod.fst).toFinset := by
  ext index
  simp only [delivered, Finset.mem_filter, Finset.mem_univ, true_and, List.mem_toFinset,
    List.mem_map, Option.isSome_iff_exists, delivered?_eq_some_iff]
  constructor
  · rintro ⟨guide, hended⟩
    obtain ⟨left, hdebits, -⟩ := (h.of_ended hended).of_delivered
    refine ⟨(index, left), mem_takings.mpr ?_, rfl⟩
    rw [hdebits]
    exact List.mem_singleton_self _
  · rintro ⟨⟨_, left⟩, hmem, rfl⟩
    obtain ⟨guide, hended, -⟩ := h.taken_delivered hmem
    exact ⟨guide, hended⟩

theorem card_delivered (h : Sound clients start sharing) :
    sharing.delivered.card = sharing.takings.length := by
  rw [h.delivered_eq, List.toFinset_card_of_nodup h.nodup_takers, List.length_map]

theorem remaining (h : Sound clients start sharing) :
    (sharing.takings.map fun taking ↦
        (sharing.delivered? taking.1).bind (·.stats.remainingCredits)) =
      (List.range sharing.takings.length).map fun earlier : Nat ↦ some (start - 1 - earlier) := by
  have htold : (sharing.takings.map fun taking ↦
      (sharing.delivered? taking.1).bind (·.stats.remainingCredits)) =
        (sharing.takings.map Prod.snd).map some := by
    rw [List.map_map]
    refine List.map_congr_left fun ⟨index, left⟩ hmem ↦ ?_
    obtain ⟨guide, hended, hleft⟩ := h.taken_delivered hmem
    dsimp only
    rw [delivered?_eq_some_iff.mpr hended]
    exact hleft
  rw [htold, h.history.inOrder, List.map_map, List.length_map]
  rfl

theorem balanced (h : Sound clients start sharing) : Balanced clients start sharing where
  length_takings := by
    have hlength := h.history.length
    rwa [List.length_map] at hlength
  floor := h.history.floor
  one_debit := fun index ↦ (h.accounted index).length_debits_le
  paid := fun _ _ hended ↦ (h.of_ended hended).of_delivered
  unpaid := fun _ _ hended ↦ (h.of_ended hended).of_failed.1
  taken_delivered := fun _ _ ↦ h.taken_delivered
  card_delivered := by
    have hlength := h.history.length
    rw [List.length_map] at hlength
    rw [h.card_delivered, hlength]
  card_delivered_le := by
    have hle := h.history.length_le
    rw [List.length_map] at hle
    rw [h.card_delivered]
    exact hle
  remaining := h.remaining
  noCredits_le := fun _ balance hended ↦ (h.of_ended hended).of_failed.2 balance rfl
  ends := fun _ _ hended ↦ (h.of_ended hended).endsWith

end Sound

/-- The books are balanced after every schedule of any number of runs. -/
theorem run_balanced (clients : Fin count → Client) (start : Int) (schedule : List (Fin count)) :
    Balanced clients start (run clients start schedule) :=
  (sound_run clients start schedule).balanced

end Sharing

end StudyGuide
