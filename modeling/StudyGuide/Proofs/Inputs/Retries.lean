import StudyGuide.Proofs.Inputs.Attempts

/-!
How often a model is called and what is said of its failures. A run of attempts makes one call for
each attempt up to the one that is answered, and one for each that the policy allows if none is
(`calls_length_attemptFrom`). What it says in the end hangs on the last attempt alone: a timeout
stays a timeout, and every other error becomes a failed generation with the number of attempts and
the detail of that error (`GuideError.SumsUp`), so the same request may be made again whatever the
model said.
-/

set_option autoImplicit false
set_option relaxedAutoImplicit false

namespace StudyGuide

namespace GuideError

/-- What so many attempts are said to have come to, of which the last ended with an error. -/
inductive SumsUp (attempts : Nat) : (last reported : GuideError) → Prop
  | timeout (seconds : Nat) :
    SumsUp attempts (.generationTimeout seconds) (.generationTimeout seconds)
  | failure (earlier : Nat) (detail : Text) :
    SumsUp attempts (.generationFailed earlier detail) (.generationFailed attempts detail)
  | other {last : GuideError} (htimeout : ∀ seconds, last ≠ .generationTimeout seconds)
    (hfailure : ∀ earlier detail, last ≠ .generationFailed earlier detail) :
    SumsUp attempts last (.generationFailed attempts last.message)

theorem SumsUp.isRetryable_eq {attempts : Nat} {last reported : GuideError}
    (h : SumsUp attempts last reported) : reported.isRetryable = true := by
  cases h <;> rfl

end GuideError

namespace Retry

variable {model : Model} {policy : RetryPolicy} {parts : List MediaPart} {instruction : Text}

theorem sumsUp_finalError (policy : RetryPolicy) (last : GuideError) :
    GuideError.SumsUp (policy.maxRetries + 1) last (finalError policy last) := by
  cases last with
  | generationTimeout seconds => exact .timeout seconds
  | generationFailed earlier detail => exact .failure earlier detail
  | _ => exact .other nofun nofun

/-! ### Calls -/

/-- The number of the last attempt that was made, by what the attempts came to. -/
def lastAttempt (allowed : Nat) : Except GuideError (Generation × Nat) → Nat
  | .ok (_, answered) => answered
  | .error _ => allowed

/-- Every attempt from the first to the last is one call. -/
theorem calls_length_attemptFrom (model : Model) (policy : RetryPolicy) (parts : List MediaPart)
    (instruction : Text) (attempt clock left : Nat) :
    let outcome := attemptFrom model policy parts instruction attempt clock left
    attempt + outcome.calls.length = lastAttempt (attempt + left) outcome.result + 1 := by
  induction left generalizing attempt clock with
  | zero =>
    cases hanswer : answer model policy attempt with
    | ok generation =>
      obtain ⟨call, elapsedMs, heq⟩ :=
        exists_attemptFrom_eq_of_answered parts instruction clock 0 hanswer
      rw [heq]
      rfl
    | error error =>
      obtain ⟨call, elapsedMs, heq⟩ :=
        exists_attemptFrom_zero_eq_of_failed parts instruction clock hanswer
      rw [heq]
      rfl
  | succ left ih =>
    cases hanswer : answer model policy attempt with
    | ok generation =>
      obtain ⟨call, elapsedMs, heq⟩ :=
        exists_attemptFrom_eq_of_answered parts instruction clock (left + 1) hanswer
      rw [heq]
      rfl
    | error error =>
      obtain ⟨call, later, heq⟩ :=
        exists_attemptFrom_succ_eq_of_failed parts instruction clock left hanswer
      have hrest := ih (attempt + 1) later
      have hnumber : attempt + (left + 1) = attempt + 1 + left := by omega
      dsimp only at hrest
      rw [heq, hnumber]
      dsimp only
      rw [← hrest, List.length_cons]
      omega

/-! ### Results -/

/-- No attempt that the policy allows is answered. -/
def NoneAnswers (model : Model) (policy : RetryPolicy) : Prop :=
  ∀ attempt ≤ policy.maxRetries, ∃ error, answer model policy attempt = .error error

theorem IsFirstAnswer.not_noneAnswers {attempt : Nat} {generation : Generation}
    (h : IsFirstAnswer model policy attempt generation) : ¬NoneAnswers model policy := by
  intro hnone
  obtain ⟨error, herror⟩ := hnone attempt h.allowed
  rw [h.answered] at herror
  contradiction

/-- There is one first answer at most. -/
theorem IsFirstAnswer.unique {attempt other : Nat} {generation answered : Generation}
    (h : IsFirstAnswer model policy attempt generation)
    (hother : IsFirstAnswer model policy other answered) :
    other = attempt ∧ answered = generation := by
  have hle {first second : Nat} {made given : Generation}
      (hfirst : IsFirstAnswer model policy first made)
      (hsecond : IsFirstAnswer model policy second given) : second ≤ first := by
    refine Nat.le_of_not_lt fun hlt ↦ ?_
    obtain ⟨error, herror⟩ := hsecond.earlier_failed first hlt
    rw [hfirst.answered] at herror
    contradiction
  obtain rfl : other = attempt := Nat.le_antisymm (hle h hother) (hle hother h)
  have hsame := h.answered.symm.trans hother.answered
  exact ⟨rfl, (Except.ok.inj hsame).symm⟩

/-- A run answers with the first answer or sums up the last error. -/
theorem run_cases (model : Model) (policy : RetryPolicy) (parts : List MediaPart)
    (instruction : Text) :
    (∃ generation retries, IsFirstAnswer model policy retries generation ∧
      (run model policy parts instruction).result = .ok (generation, retries)) ∨
    NoneAnswers model policy ∧ ∃ last, answer model policy policy.maxRetries = .error last ∧
      (run model policy parts instruction).result = .error (finalError policy last) := by
  cases hresult : (run model policy parts instruction).result with
  | ok made => exact Or.inl ⟨made.1, made.2, isFirstAnswer_of_run hresult, rfl⟩
  | error reported =>
    have hnone : NoneAnswers model policy := all_failed_of_run hresult
    refine Or.inr ⟨hnone, ?_⟩
    rcases attemptFrom_cases model policy parts instruction 0 0 policy.maxRetries with
      ⟨generation, last, hok, -⟩ | ⟨last, herror, hlast, -⟩
    · rw [run, hok] at hresult
      contradiction
    · rw [run, herror] at hresult
      rw [Nat.zero_add] at hlast
      exact ⟨last, hlast, by rw [← hresult]⟩

theorem calls_length_run (model : Model) (policy : RetryPolicy) (parts : List MediaPart)
    (instruction : Text) :
    (run model policy parts instruction).calls.length =
      lastAttempt policy.maxRetries (run model policy parts instruction).result + 1 := by
  have hlength := calls_length_attemptFrom model policy parts instruction 0 0 policy.maxRetries
  dsimp only at hlength
  rwa [Nat.zero_add, Nat.zero_add] at hlength

/-- A run whose first answer comes after so many retries gives that answer and their number, after
one call more than they are. One that gets no answer calls as often as the policy allows, and its
error sums up the last one. Whatever a run fails with may be tried again, and every call asks the
same. -/
theorem run_calls_and_reports (model : Model) (policy : RetryPolicy) (parts : List MediaPart)
    (instruction : Text) :
    let outcome := run model policy parts instruction
    (∀ generation retries, IsFirstAnswer model policy retries generation →
      outcome.result = .ok (generation, retries) ∧ outcome.calls.length = retries + 1) ∧
    ((¬∃ generation retries, IsFirstAnswer model policy retries generation) →
      outcome.calls.length = policy.maxRetries + 1 ∧
        ∃ last reported, answer model policy policy.maxRetries = .error last ∧
          outcome.result = .error reported ∧
          GuideError.SumsUp (policy.maxRetries + 1) last reported) ∧
    (∀ error, outcome.result = .error error → error.isRetryable = true) ∧
    ∀ call ∈ outcome.calls, call.parts = parts ∧ call.instruction = instruction := by
  intro outcome
  have hlength : outcome.calls.length = lastAttempt policy.maxRetries outcome.result + 1 :=
    calls_length_run model policy parts instruction
  have hsame : ∀ call ∈ outcome.calls, call.parts = parts ∧ call.instruction = instruction :=
    fun call hcall ↦ mem_calls_attemptFrom hcall
  rcases run_cases model policy parts instruction with
    ⟨made, answered, hfirst, hresult⟩ | ⟨hnone, last, hlast, hresult⟩
  · have hresult : outcome.result = .ok (made, answered) := hresult
    rw [hresult]
    rw [hresult, lastAttempt] at hlength
    refine ⟨fun generation retries h ↦ ?_, fun hnot ↦ ?_, nofun, hsame⟩
    · obtain ⟨rfl, rfl⟩ := h.unique hfirst
      exact ⟨rfl, hlength⟩
    · exact absurd ⟨made, answered, hfirst⟩ hnot
  · have hresult : outcome.result = .error (finalError policy last) := hresult
    have hsums := sumsUp_finalError policy last
    rw [hresult]
    rw [hresult, lastAttempt] at hlength
    refine ⟨fun generation retries h ↦ absurd hnone h.not_noneAnswers,
      fun _ ↦ ⟨hlength, last, _, hlast, rfl, hsums⟩, fun error herror ↦ ?_, hsame⟩
    obtain rfl := Except.error.inj herror
    exact hsums.isRetryable_eq

/-- A busy model, one that takes six seconds to answer, and one that takes the inputs for bad
ones. -/
def unwilling : Model := Model.ofScript [
  { outcome := .error (.generationFailed 1 "busy") },
  { outcome := .ok { text := "Luz", inputTokens := 1, outputTokens := 1 }, delayMs := 6000 },
  { outcome := .error .noInputs }]

/-- Whoever waits for seven seconds gets the answer of the second call. Whoever waits for five
makes the third call, and its failure is reported as three failed attempts. -/
theorem unwilling_answers_the_patient :
    (IsFirstAnswer unwilling ⟨2, 500, 7⟩ 1 ⟨"Luz", 1, 1⟩ ∧
      (run unwilling ⟨2, 500, 7⟩ [] "Hazlo").result = .ok (⟨"Luz", 1, 1⟩, 1) ∧
      (run unwilling ⟨2, 500, 7⟩ [] "Hazlo").calls.length = 2) ∧
    (¬∃ generation retries, IsFirstAnswer unwilling ⟨2, 500, 5⟩ retries generation) ∧
      (run unwilling ⟨2, 500, 5⟩ [] "Hazlo").calls.length = 3 ∧
      ∃ last reported, answer unwilling ⟨2, 500, 5⟩ 2 = .error last ∧
        (run unwilling ⟨2, 500, 5⟩ [] "Hazlo").result = .error reported ∧
        GuideError.SumsUp 3 last reported := by
  have hfirst : IsFirstAnswer unwilling ⟨2, 500, 7⟩ 1 ⟨"Luz", 1, 1⟩ := by
    refine ⟨by decide, rfl, fun earlier hearlier ↦ ?_⟩
    obtain rfl := Nat.lt_one_iff.mp hearlier
    exact ⟨.generationFailed 1 "busy", rfl⟩
  have hfailed : ∀ attempt ≤ 2, (answer unwilling ⟨2, 500, 5⟩ attempt).isOk = false := by decide
  have hnone : ¬∃ generation retries, IsFirstAnswer unwilling ⟨2, 500, 5⟩ retries generation := by
    rintro ⟨generation, retries, hfirst⟩
    have hok := hfailed retries hfirst.allowed
    rw [hfirst.answered] at hok
    exact Bool.noConfusion hok
  exact ⟨⟨hfirst, (run_calls_and_reports unwilling ⟨2, 500, 7⟩ [] "Hazlo").1 _ _ hfirst⟩,
    hnone, (run_calls_and_reports unwilling ⟨2, 500, 5⟩ [] "Hazlo").2.1 hnone⟩

end Retry

end StudyGuide
