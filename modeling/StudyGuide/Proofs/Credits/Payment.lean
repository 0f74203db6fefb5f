import StudyGuide.Proofs.Inputs.Attempts
import StudyGuide.Proofs.Inputs.Order
import StudyGuide.Run

/-!
A run pays exactly when it delivers. `IsFair` gathers what a caller may rely on: a run that fails
has taken nothing, whichever of its stages failed; a run that succeeds with a ledger has taken one
credit and tells the balance that is left; the model is asked exactly when there are inputs, the
gate is open and every input was read; and a delivered guide is the first answer of the model,
compiled as the same text would be without a model. `run_isFair` says that every run is fair.

The stages are taken one at a time. `run_cases` tells a run that is refused from one that makes a
guide and pays for it, `make_eq_ok` opens the making of a guide, and `debit_cases` the debit, which
others may come before.
-/

set_option autoImplicit false
set_option relaxedAutoImplicit false

namespace StudyGuide

/-! ### Guides -/

/-- Two guides of the same answer, the same in all that is compiled and drawn of it. -/
structure Guide.SameContent (first second : Guide) : Prop where
  rawText : first.rawText = second.rawText
  document : first.document = second.document
  fileName : first.fileName = second.fileName
  pdf : first.pdf = second.pdf
  pages : first.stats.pages = second.stats.pages
  blocks : first.stats.blocks = second.stats.blocks
  droppedLines : first.stats.droppedLines = second.stats.droppedLines
  usesDefaultTitle : first.stats.usesDefaultTitle = second.stats.usesDefaultTitle

namespace Guide

variable {render : Renderer} {config : Config} {rawText : Text} {stats : Stats} {guide : Guide}

/-- What is known of a guide before it is compiled stays, and the rest is what the text alone
gives. -/
theorem of_build (h : (build render config rawText stats).2 = .ok guide) :
    guide.rawText = rawText ∧
      (guide.stats.inputFiles = stats.inputFiles ∧ guide.stats.imageFiles = stats.imageFiles ∧
        guide.stats.audioFiles = stats.audioFiles ∧
        guide.stats.remainingCredits = stats.remainingCredits) ∧
      ∃ offline, (ofText config rawText render).2 = .ok offline ∧ guide.SameContent offline := by
  unfold ofText
  unfold build at h ⊢
  dsimp only at h ⊢
  cases hrendered : render (.ofDocument config.theme
      (Compilation.compileWith config.sanitizer config.defaultTitle rawText config.author).1) with
  | error error =>
    rw [hrendered] at h
    exact absurd h (by simp [Except.map])
  | ok rendered =>
    rw [hrendered] at h
    obtain rfl := Except.ok.inj h
    exact ⟨rfl, ⟨rfl, rfl, rfl, rfl⟩, _, rfl, ⟨rfl, rfl, rfl, rfl, rfl, rfl, rfl, rfl⟩⟩

end Guide

/-- Every input is an image or a recording. -/
theorem Stats.inputFiles_ofMedia (media : List Media) :
    (Stats.ofMedia media).inputFiles =
      (Stats.ofMedia media).imageFiles + (Stats.ofMedia media).audioFiles := by
  have hsplit := List.length_eq_countP_add_countP (fun m : Media ↦ m.family == .image) (l := media)
  have haudio : media.countP (fun m ↦ decide ¬(m.family == .image) = true) =
      media.countP fun m ↦ m.family == .audio := by
    refine List.countP_congr fun m _ ↦ ?_
    cases m.family <;> decide
  rw [haudio] at hsplit
  exact hsplit

/-! ### Ledgers -/

/-- The ledger when only the others have drawn on it. -/
def Ledger.afterOthers (ledger : Ledger) : Ledger :=
  { ledger with balance := afterRivals ledger.balance ledger.rivals }

namespace Ledger

variable {ledger : Ledger}

/-- A debit takes one credit that the others have left, or nothing. -/
theorem debit_cases (ledger : Ledger) :
    (0 < ledger.afterOthers.balance ∧
      ledger.debit =
        ({ ledger with balance := ledger.afterOthers.balance - 1 },
          .ok (ledger.afterOthers.balance - 1))) ∨
    (ledger.afterOthers.balance ≤ 0 ∧
      ∃ error, ledger.debit = (ledger.afterOthers, .error error)) := by
  unfold debit Credits.take
  by_cases hleft : 0 < ledger.afterOthers.balance
  · have hafter : 0 < afterRivals ledger.balance ledger.rivals := hleft
    rw [if_pos hafter]
    exact Or.inl ⟨hleft, rfl⟩
  · have hafter : ¬0 < afterRivals ledger.balance ledger.rivals := hleft
    rw [if_neg hafter]
    refine Or.inr ⟨Int.not_lt.mp hleft, ?_⟩
    cases houtage : ledger.outage with
    | none =>
      exact ⟨.noCredits ledger.afterOthers.balance,
        by simp [read, houtage, Except.bind, afterOthers]⟩
    | some reason =>
      exact ⟨.ledgerUnavailable reason, by simp [read, houtage, Except.bind, afterOthers]⟩

theorem afterOthers_eq_self (h : ledger.rivals = 0) : ledger.afterOthers = ledger := by
  obtain ⟨balance, rivals, outage⟩ := ledger
  obtain rfl : rivals = 0 := h
  rfl

end Ledger

namespace Run

/-- The balance can be read, and a credit is left. -/
def GateOpen (ledger : Option Ledger) : Prop :=
  ∀ before ∈ ledger, before.outage = none ∧ 0 < before.balance

theorem gate_eq_ok_iff (ledger : Option Ledger) : gate ledger = .ok () ↔ GateOpen ledger := by
  cases ledger with
  | none => simp [gate, GateOpen]
  | some before =>
    simp only [gate, GateOpen, Option.mem_some_iff, forall_eq', Ledger.gate, Ledger.read]
    cases before.outage with
    | some reason => simp [Except.bind, Except.map]
    | none =>
      simp only [Except.bind, Credits.gate, true_and]
      split_ifs with hempty
      · simp [Except.map, hempty]
      · simpa [Except.map] using hempty

/-! ### Making -/

variable {workshop : Workshop} {config : Config} {inputs : List Text} {ledger : Option Ledger}

/-- A guide is made of everything that was read and of the answer of the model. -/
theorem make_eq_ok {guide : Guide} (h : (make workshop config inputs).result = .ok guide) :
    ∃ media generation retries,
      Arrival.collect (arrivals workshop config inputs) = .ok media ∧
      (ask workshop config media).result = .ok (generation, retries) ∧
      (Guide.build workshop.render config generation.text
        (statsOf media generation retries)).2 = .ok guide := by
  unfold make at h
  dsimp only at h
  cases hmedia : Arrival.collect (arrivals workshop config inputs) with
  | error error =>
    rw [hmedia] at h
    contradiction
  | ok media =>
    rw [hmedia] at h
    unfold makeFrom at h
    dsimp only at h
    cases hasked : (ask workshop config media).result with
    | error error =>
      rw [hasked] at h
      contradiction
    | ok answered =>
      rw [hasked] at h
      exact ⟨media, answered.1, answered.2, rfl, hasked, h⟩

theorem calls_make_ne_nil_iff :
    (make workshop config inputs).calls ≠ [] ↔
      ∃ media, Arrival.collect (arrivals workshop config inputs) = .ok media := by
  unfold make
  dsimp only
  cases hmedia : Arrival.collect (arrivals workshop config inputs) with
  | error error => simp
  | ok media =>
    refine iff_of_true ?_ ⟨media, rfl⟩
    have hcalls : (makeFrom workshop config (readingEvents inputs.length
        (arrivals workshop config inputs)) media).calls = (ask workshop config media).calls := by
      unfold makeFrom
      dsimp only
      cases (ask workshop config media).result <;> rfl
    dsimp only
    rw [hcalls]
    exact Retry.calls_run_ne_nil

/-! ### Runs -/

/-- A run is refused before anything is read, or makes a guide and pays for it. -/
theorem run_cases (workshop : Workshop) (config : Config) (inputs : List Text)
    (ledger : Option Ledger) :
    (¬(inputs ≠ [] ∧ GateOpen ledger) ∧
      ∃ error, run workshop config inputs ledger = refuse ledger error) ∨
    ((inputs ≠ [] ∧ GateOpen ledger) ∧
      run workshop config inputs ledger =
        { make workshop config inputs with
          result := (pay ledger (make workshop config inputs).result).2
          ledger := (pay ledger (make workshop config inputs).result).1 }) := by
  rw [← gate_eq_ok_iff]
  unfold run
  by_cases hinputs : inputs = []
  · rw [if_pos hinputs]
    exact Or.inl ⟨fun h ↦ h.1 hinputs, _, rfl⟩
  · rw [if_neg hinputs]
    cases hgate : gate ledger with
    | error error => exact Or.inl ⟨fun h ↦ by simp at h, error, rfl⟩
    | ok open_ => exact Or.inr ⟨⟨hinputs, rfl⟩, rfl⟩

/-! ### Payment -/

/-- A failed making costs nothing, and a guide without a ledger is free. With a ledger the guide is
paid with a credit that the others have left, or it is discarded. -/
theorem pay_cases (ledger : Option Ledger) (result : Except GuideError Guide) :
    (((∃ error, result = .error error) ∨ ledger = none) ∧ pay ledger result = (ledger, result)) ∨
    ∃ before guide, ledger = some before ∧ result = .ok guide ∧
      ((0 < before.afterOthers.balance ∧
        pay ledger result =
          (some { before with balance := before.afterOthers.balance - 1 },
            .ok (withRemaining guide (before.afterOthers.balance - 1)))) ∨
      (before.afterOthers.balance ≤ 0 ∧
        ∃ error, pay ledger result = (some before.afterOthers, .error error))) := by
  cases result with
  | error error =>
    refine Or.inl ⟨Or.inl ⟨error, rfl⟩, ?_⟩
    cases ledger <;> rfl
  | ok guide =>
    cases ledger with
    | none => exact Or.inl ⟨Or.inr rfl, rfl⟩
    | some before =>
      refine Or.inr ⟨before, guide, rfl, rfl, ?_⟩
      unfold pay
      dsimp only
      rcases before.debit_cases with ⟨hleft, hdebit⟩ | ⟨hnone, error, hdebit⟩
      · rw [hdebit]
        exact Or.inl ⟨hleft, rfl⟩
      · rw [hdebit]
        exact Or.inr ⟨hnone, error, rfl⟩

/-- What a caller may rely on, whatever the inputs, the model, the drawing and the ledger do. -/
structure IsFair (workshop : Workshop) (config : Config) (inputs : List Text)
    (ledger : Option Ledger) (outcome : Outcome) : Prop where
  /-- A run that fails has taken nothing: the ledger is as it was, or, when others have spent the
  last credit, as they have left it. -/
  failed : ∀ error, outcome.result = .error error →
    outcome.ledger = ledger ∨
      ∃ before, ledger = some before ∧ before.afterOthers.balance ≤ 0 ∧
        outcome.ledger = some before.afterOthers
  /-- Alone with its ledger, a run that fails leaves it as it was. -/
  failed_alone : ∀ error, outcome.result = .error error →
    (∀ before ∈ ledger, before.rivals = 0) → outcome.ledger = ledger
  /-- A run that succeeds with a ledger has taken one credit, and tells the new balance. -/
  paid : ∀ guide before, outcome.result = .ok guide → ledger = some before →
    0 < before.afterOthers.balance ∧
      outcome.ledger = some { before with balance := before.afterOthers.balance - 1 } ∧
      guide.stats.remainingCredits = some (before.afterOthers.balance - 1)
  /-- Without a ledger there is no balance to tell. -/
  free : ∀ guide, outcome.result = .ok guide → ledger = none →
    outcome.ledger = none ∧ guide.stats.remainingCredits = none
  /-- The model is asked only, and always, when all that comes before it has gone well. -/
  asked_iff : outcome.calls ≠ [] ↔
    inputs ≠ [] ∧ GateOpen ledger ∧
      ∀ index source, inputs[index]? = some source →
        ∃ media, workshop.resolve index source = .ok media
  /-- A guide holds the first answer of the model, compiled as that text is without a model. -/
  compiled : ∀ guide, outcome.result = .ok guide →
    (∃ attempt generation,
      Retry.IsFirstAnswer workshop.model config.retryPolicy attempt generation ∧
        guide.rawText = generation.text) ∧
    ∃ offline, (Guide.ofText config guide.rawText workshop.render).2 = .ok offline ∧
      guide.SameContent offline
  /-- Every input is counted once, as an image or as a recording. -/
  counted : ∀ guide, outcome.result = .ok guide →
    guide.stats.inputFiles = guide.stats.imageFiles + guide.stats.audioFiles ∧
      guide.stats.inputFiles = inputs.length

/-- What is known of a guide before it is paid. -/
theorem of_make_eq_ok {guide : Guide} (h : (make workshop config inputs).result = .ok guide) :
    guide.stats.remainingCredits = none ∧
    (∃ attempt generation,
      Retry.IsFirstAnswer workshop.model config.retryPolicy attempt generation ∧
        guide.rawText = generation.text) ∧
    (∃ offline, (Guide.ofText config guide.rawText workshop.render).2 = .ok offline ∧
      guide.SameContent offline) ∧
    guide.stats.inputFiles = guide.stats.imageFiles + guide.stats.audioFiles ∧
    guide.stats.inputFiles = inputs.length := by
  obtain ⟨media, generation, retries, hmedia, hasked, hbuild⟩ := make_eq_ok h
  obtain ⟨hraw, ⟨hinputs, himages, haudio, hcredits⟩, hoffline⟩ := Guide.of_build hbuild
  refine ⟨hcredits, ⟨retries, generation, Retry.isFirstAnswer_of_run hasked, hraw⟩, ?_, ?_, ?_⟩
  · rw [hraw]
    exact hoffline
  · rw [hinputs, himages, haudio]
    exact Stats.inputFiles_ofMedia media
  · rw [hinputs]
    exact Arrival.length_of_collect_all workshop.resolve hmedia

/-- A delivered guide was made, and payment added at most the balance that is left. -/
theorem of_run_eq_ok {guide : Guide} (h : (run workshop config inputs ledger).result = .ok guide) :
    ∃ made, (make workshop config inputs).result = .ok made ∧
      ((ledger = none ∧ guide = made ∧ (run workshop config inputs ledger).ledger = none) ∨
      ∃ before, ledger = some before ∧ 0 < before.afterOthers.balance ∧
        guide = withRemaining made (before.afterOthers.balance - 1) ∧
        (run workshop config inputs ledger).ledger =
          some { before with balance := before.afterOthers.balance - 1 }) := by
  rcases run_cases workshop config inputs ledger with ⟨-, error, hrun⟩ | ⟨-, hrun⟩
  · rw [hrun] at h
    contradiction
  · rw [hrun] at h ⊢
    dsimp only at h ⊢
    rcases pay_cases ledger (make workshop config inputs).result with
      ⟨hfree, hpay⟩ | ⟨before, made, rfl, hmade, hpaid | ⟨-, error, hpay⟩⟩
    · rw [hpay] at h ⊢
      rcases hfree with ⟨error, herror⟩ | rfl
      · rw [herror] at h
        contradiction
      · exact ⟨guide, h, Or.inl ⟨rfl, rfl, rfl⟩⟩
    · obtain ⟨hleft, hpay⟩ := hpaid
      rw [hpay] at h ⊢
      exact ⟨made, hmade, Or.inr ⟨before, rfl, hleft, (Except.ok.inj h).symm, rfl⟩⟩
    · rw [hpay] at h
      contradiction

theorem ledger_of_run_eq_error {error : GuideError}
    (h : (run workshop config inputs ledger).result = .error error) :
    (run workshop config inputs ledger).ledger = ledger ∨
      ∃ before, ledger = some before ∧ before.afterOthers.balance ≤ 0 ∧
        (run workshop config inputs ledger).ledger = some before.afterOthers := by
  rcases run_cases workshop config inputs ledger with ⟨-, other, hrun⟩ | ⟨-, hrun⟩
  · rw [hrun]
    exact Or.inl rfl
  · rw [hrun] at h ⊢
    dsimp only at h ⊢
    rcases pay_cases ledger (make workshop config inputs).result with
      ⟨-, hpay⟩ | ⟨before, made, rfl, -, ⟨-, hpay⟩ | ⟨hnone, other, hpay⟩⟩
    · rw [hpay]
      exact Or.inl rfl
    · rw [hpay] at h
      contradiction
    · rw [hpay]
      exact Or.inr ⟨before, rfl, hnone, rfl⟩

theorem calls_run_ne_nil_iff :
    (run workshop config inputs ledger).calls ≠ [] ↔
      inputs ≠ [] ∧ GateOpen ledger ∧
        ∀ index source, inputs[index]? = some source →
          ∃ media, workshop.resolve index source = .ok media := by
  rw [← Arrival.exists_collect_all_eq_ok_iff workshop.resolve (max config.concurrency 1)
    workshop.choices inputs]
  rcases run_cases workshop config inputs ledger with ⟨hrefused, error, hrun⟩ | ⟨hbegun, hrun⟩
  · rw [hrun]
    refine iff_of_false (fun h ↦ h rfl) fun h ↦ hrefused ⟨h.1, h.2.1⟩
  · rw [hrun]
    exact calls_make_ne_nil_iff.trans
      ⟨fun h ↦ ⟨hbegun.1, hbegun.2, h⟩, fun h ↦ h.2.2⟩

/-- Every run is fair. -/
theorem run_isFair (workshop : Workshop) (config : Config) (inputs : List Text)
    (ledger : Option Ledger) :
    IsFair workshop config inputs ledger (run workshop config inputs ledger) where
  failed := fun _ h ↦ ledger_of_run_eq_error h
  failed_alone := fun _ h halone ↦ by
    rcases ledger_of_run_eq_error h with hsame | ⟨before, rfl, -, hothers⟩
    · exact hsame
    · rw [hothers, Ledger.afterOthers_eq_self (halone before rfl)]
  paid := fun guide before h hledger ↦ by
    obtain ⟨made, -, ⟨hnone, -⟩ | ⟨other, hother, hleft, rfl, hafter⟩⟩ := of_run_eq_ok h
    · rw [hnone] at hledger
      contradiction
    · rw [hother] at hledger
      obtain rfl := Option.some.inj hledger
      exact ⟨hleft, hafter, rfl⟩
  free := fun guide h hledger ↦ by
    obtain ⟨made, hmade, ⟨-, rfl, hafter⟩ | ⟨other, hother, -⟩⟩ := of_run_eq_ok h
    · exact ⟨hafter, (of_make_eq_ok hmade).1⟩
    · rw [hother] at hledger
      contradiction
  asked_iff := calls_run_ne_nil_iff
  compiled := fun guide h ↦ by
    obtain ⟨made, hmade, ⟨-, rfl, -⟩ | ⟨_, -, -, rfl, -⟩⟩ := of_run_eq_ok h
    · obtain ⟨-, hanswer, hoffline, -⟩ := of_make_eq_ok hmade
      exact ⟨hanswer, hoffline⟩
    · obtain ⟨-, hanswer, ⟨offline, hoffline, hsame⟩, -⟩ := of_make_eq_ok hmade
      exact ⟨hanswer, offline, hoffline, { hsame with }⟩
  counted := fun guide h ↦ by
    obtain ⟨made, hmade, ⟨-, rfl, -⟩ | ⟨_, -, -, rfl, -⟩⟩ := of_run_eq_ok h
    · exact (of_make_eq_ok hmade).2.2.2
    · exact (of_make_eq_ok hmade).2.2.2

end Run

end StudyGuide
