import StudyGuide.Proofs.Inputs.Attempts
import StudyGuide.Proofs.Inputs.Order
import StudyGuide.Run

/-!
Only the gate and the debit speak of credits. Reading fails for reasons of its own, the model's
failures are reported as such, and drawing does not fail, so no failed making says that credits
have run out (`notOfCredits_make`).
-/

set_option autoImplicit false
set_option relaxedAutoImplicit false

namespace StudyGuide

/-! ### Outcomes that have not run out of credits -/

/-- The outcome does not say that credits have run out. -/
def NotOfCredits {α : Type} (outcome : Except GuideError α) : Prop :=
  ∀ balance, outcome ≠ .error (.noCredits balance)

namespace NotOfCredits

variable {α β : Type} {outcome : Except GuideError α}

theorem of_ok (value : α) : NotOfCredits (.ok value) := fun _ h ↦ by contradiction

theorem of_error {error : GuideError} (h : ∀ balance, error ≠ .noCredits balance) :
    NotOfCredits (α := α) (.error error) :=
  fun balance heq ↦ h balance (Except.error.inj heq)

theorem bind (h : NotOfCredits outcome) {next : α → Except GuideError β}
    (hnext : ∀ value, NotOfCredits (next value)) : NotOfCredits (outcome >>= next) := by
  cases outcome with
  | error error => exact of_error fun balance heq ↦ h balance (congrArg Except.error heq)
  | ok value => exact hnext value

theorem map (h : NotOfCredits outcome) (f : α → β) : NotOfCredits (outcome.map f) := by
  cases outcome with
  | error error => exact of_error fun balance heq ↦ h balance (congrArg Except.error heq)
  | ok value => exact of_ok _

end NotOfCredits

open NotOfCredits

/-! ### Reading -/

namespace Media

theorem notOfCredits_readLocal (store : FileStore) (limit : Nat) (path : Text) :
    NotOfCredits (readLocal store limit path) := by
  unfold readLocal
  split_ifs with hblank
  · exact of_error (by simp)
  · split
    · exact of_error (by simp)
    · split
      · exact of_error (by simp)
      · exact of_error (by simp)
      · refine map ?_ _
        unfold checkSize
        split_ifs with hlarge
        · exact of_error (by simp)
        · exact of_ok _

theorem notOfCredits_contents (reader : Reader) (source : Text) :
    NotOfCredits (reader.contents source) := by
  unfold Reader.contents
  split_ifs with hurl
  · cases reader.fetch source with
    | error failure =>
      exact of_error fun balance ↦ by cases failure <;> simp [DownloadFailure.toError]
    | ok content => exact of_ok content
  · exact map (notOfCredits_readLocal _ _ _) _

theorem notOfCredits_detect (detector : MediaType.Detector) (source : Text) (bytes : Bytes)
    (declared : Option Text) : NotOfCredits (detector.detect source bytes declared) := by
  unfold MediaType.Detector.detect
  dsimp only
  split
  · exact of_ok _
  · exact of_error (by simp)

theorem notOfCredits_resolve (reader : Reader) (index : Nat) (source : Text) :
    NotOfCredits (resolve reader index source) :=
  bind (notOfCredits_contents reader source) fun _ ↦
    bind (notOfCredits_detect _ _ _ _) fun _ ↦ of_ok _

end Media

/-! ### Making -/

namespace Run

variable {workshop : Workshop}

theorem notOfCredits_collect
    (hresolve : ∀ index source, NotOfCredits (workshop.resolve index source)) (config : Config)
    (inputs : List Text) :
    NotOfCredits (Arrival.collect (arrivals workshop config inputs)) := by
  intro balance h
  rw [arrivals, Arrival.collect_all] at h
  obtain ⟨⟨source, index⟩, -, hread⟩ := exists_of_mapM_eq_error _ h
  exact hresolve index source balance hread

/-- A making fails for reasons of its inputs, its model and its drawing alone. -/
theorem notOfCredits_make
    (hresolve : ∀ index source, NotOfCredits (workshop.resolve index source))
    (hrender : ∀ layout, NotOfCredits (workshop.render layout)) (config : Config)
    (inputs : List Text) : NotOfCredits (make workshop config inputs).result := by
  unfold make
  dsimp only
  have hcollect := notOfCredits_collect hresolve config inputs
  cases hmedia : Arrival.collect (arrivals workshop config inputs) with
  | error error =>
    rw [hmedia] at hcollect
    exact of_error fun balance heq ↦ hcollect balance (congrArg Except.error heq)
  | ok media =>
    dsimp only
    unfold makeFrom
    dsimp only
    cases hasked : (ask workshop config media).result with
    | error error =>
      refine of_error fun balance heq ↦ ?_
      exact Retry.run_error_ne_noCredits balance (hasked.trans (congrArg Except.error heq))
    | ok answered => exact map (hrender _) _

end Run

end StudyGuide
