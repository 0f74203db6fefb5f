import StudyGuide.Retry

/-!
The attempts of a retry. An attempt is answered when the reply of the model comes in time and is
an answer. Attempts end with the first that is answered, or with the error of the last one
(`attemptFrom_cases`); so a run that answers gives the first answer (`isFirstAnswer_of_run`), and
one that does not got none from any attempt (`all_failed_of_run`) and says so in its own terms,
never in those of credits (`run_error_ne_noCredits`).
-/

set_option autoImplicit false
set_option relaxedAutoImplicit false

namespace StudyGuide.Retry

variable (model : Model) (policy : RetryPolicy)

/-- What an attempt comes to within the time limit. -/
def answer (attempt : Nat) : Except GuideError Generation := (settle policy (model attempt)).1

/-- The attempt is one that the policy allows, the model answers it, and it answered none before. -/
structure IsFirstAnswer (attempt : Nat) (generation : Generation) : Prop where
  allowed : attempt ≤ policy.maxRetries
  answered : answer model policy attempt = .ok generation
  earlier_failed : ∀ earlier < attempt, ∃ error, answer model policy earlier = .error error

variable {model policy} {parts : List MediaPart} {instruction : Text} {attempt clock left : Nat}

/-- An attempt that is answered is one call, and nothing comes after it. -/
theorem exists_attemptFrom_eq_of_answered (parts : List MediaPart) (instruction : Text)
    (clock left : Nat) {generation : Generation}
    (h : answer model policy attempt = .ok generation) :
    ∃ call elapsedMs, attemptFrom model policy parts instruction attempt clock left =
      { result := .ok (generation, attempt), calls := [call], elapsedMs } := by
  rcases hsettle : settle policy (model attempt) with ⟨outcome, time⟩
  rw [answer, hsettle] at h
  obtain rfl : outcome = .ok generation := h
  refine ⟨{ atMs := clock + waitBefore policy attempt, parts, instruction },
    clock + waitBefore policy attempt + time, ?_⟩
  rw [attemptFrom, hsettle]

/-- Nothing comes after the last attempt either. -/
theorem exists_attemptFrom_zero_eq_of_failed (parts : List MediaPart) (instruction : Text)
    (clock : Nat) {error : GuideError} (h : answer model policy attempt = .error error) :
    ∃ call elapsedMs, attemptFrom model policy parts instruction attempt clock 0 =
      { result := .error (finalError policy error), calls := [call], elapsedMs } := by
  rcases hsettle : settle policy (model attempt) with ⟨outcome, time⟩
  rw [answer, hsettle] at h
  obtain rfl : outcome = .error error := h
  refine ⟨{ atMs := clock + waitBefore policy attempt, parts, instruction },
    clock + waitBefore policy attempt + time, ?_⟩
  rw [attemptFrom, hsettle]

/-- An attempt that failed is one call and leaves the rest to the next one, if one is left. -/
theorem exists_attemptFrom_succ_eq_of_failed (parts : List MediaPart) (instruction : Text)
    (clock left : Nat) {error : GuideError} (h : answer model policy attempt = .error error) :
    ∃ call later, attemptFrom model policy parts instruction attempt clock (left + 1) =
      let rest := attemptFrom model policy parts instruction (attempt + 1) later left
      { rest with calls := call :: rest.calls } := by
  rcases hsettle : settle policy (model attempt) with ⟨outcome, time⟩
  rw [answer, hsettle] at h
  obtain rfl : outcome = .error error := h
  refine ⟨{ atMs := clock + waitBefore policy attempt, parts, instruction },
    clock + waitBefore policy attempt + time, ?_⟩
  conv => lhs; unfold attemptFrom
  rw [hsettle]

theorem attemptFrom_of_answered {generation : Generation}
    (h : answer model policy attempt = .ok generation) :
    (attemptFrom model policy parts instruction attempt clock left).result =
      .ok (generation, attempt) := by
  obtain ⟨call, elapsedMs, heq⟩ :=
    exists_attemptFrom_eq_of_answered parts instruction clock left h
  exact congrArg Outcome.result heq

theorem attemptFrom_zero_of_failed {error : GuideError}
    (h : answer model policy attempt = .error error) :
    (attemptFrom model policy parts instruction attempt clock 0).result =
      .error (finalError policy error) := by
  obtain ⟨call, elapsedMs, heq⟩ := exists_attemptFrom_zero_eq_of_failed parts instruction clock h
  exact congrArg Outcome.result heq

theorem attemptFrom_succ_of_failed (parts : List MediaPart) (instruction : Text)
    (clock left : Nat) {error : GuideError} (h : answer model policy attempt = .error error) :
    ∃ later, (attemptFrom model policy parts instruction attempt clock (left + 1)).result =
      (attemptFrom model policy parts instruction (attempt + 1) later left).result := by
  obtain ⟨call, later, heq⟩ :=
    exists_attemptFrom_succ_eq_of_failed parts instruction clock left h
  exact ⟨later, by rw [heq]⟩

/-- Attempts end with the first that is answered, or with the error of the last one. -/
theorem attemptFrom_cases (model : Model) (policy : RetryPolicy) (parts : List MediaPart)
    (instruction : Text) (attempt clock left : Nat) :
    (∃ generation last,
      (attemptFrom model policy parts instruction attempt clock left).result =
        .ok (generation, last) ∧
      last ≤ attempt + left ∧ answer model policy last = .ok generation ∧
      ∀ earlier, attempt ≤ earlier → earlier < last →
        ∃ error, answer model policy earlier = .error error) ∨
    ∃ error,
      (attemptFrom model policy parts instruction attempt clock left).result =
        .error (finalError policy error) ∧
      answer model policy (attempt + left) = .error error ∧
      ∀ earlier, attempt ≤ earlier → earlier < attempt + left →
        ∃ error, answer model policy earlier = .error error := by
  induction left generalizing attempt clock with
  | zero =>
    cases hanswer : answer model policy attempt with
    | ok first =>
      exact Or.inl ⟨first, attempt, attemptFrom_of_answered hanswer, Nat.le_refl _, hanswer,
        fun earlier hle hlt ↦ by omega⟩
    | error error =>
      exact Or.inr ⟨error, attemptFrom_zero_of_failed hanswer, rfl,
        fun earlier hle hlt ↦ by omega⟩
  | succ left ih =>
    cases hanswer : answer model policy attempt with
    | ok first =>
      exact Or.inl ⟨first, attempt, attemptFrom_of_answered hanswer, Nat.le_add_right _ _, hanswer,
        fun earlier hle hlt ↦ by omega⟩
    | error error =>
      obtain ⟨later, hlater⟩ := attemptFrom_succ_of_failed parts instruction clock left hanswer
      have hnumber : attempt + 1 + left = attempt + (left + 1) := by omega
      have hfailed {last : Nat} (hrest : ∀ earlier, attempt + 1 ≤ earlier → earlier < last →
          ∃ error, answer model policy earlier = .error error) (earlier : Nat)
          (hle : attempt ≤ earlier) (hlt : earlier < last) :
          ∃ error, answer model policy earlier = .error error := by
        rcases Nat.eq_or_lt_of_le hle with rfl | hafter
        · exact ⟨error, hanswer⟩
        · exact hrest earlier hafter hlt
      rw [hlater, ← hnumber]
      refine (ih (attempt + 1) later).imp ?_ ?_
      · rintro ⟨generation, last, hresult, hlast, hanswered, hearlier⟩
        exact ⟨generation, last, hresult, hlast, hanswered, hfailed hearlier⟩
      · rintro ⟨last, hresult, hlast, hearlier⟩
        exact ⟨last, hresult, hlast, hfailed hearlier⟩

/-- A run that gives an answer gives the first one. -/
theorem isFirstAnswer_of_run {generation : Generation} {last : Nat}
    (h : (run model policy parts instruction).result = .ok (generation, last)) :
    IsFirstAnswer model policy last generation := by
  unfold run at h
  rcases attemptFrom_cases model policy parts instruction 0 0 policy.maxRetries with
    ⟨_, _, hresult, hlast, hanswered, hearlier⟩ | ⟨error, hresult, -⟩
  · rw [hresult] at h
    obtain ⟨rfl, rfl⟩ := Prod.mk.inj (Except.ok.inj h)
    exact ⟨by omega, hanswered, fun earlier hlt ↦ hearlier earlier (Nat.zero_le _) hlt⟩
  · rw [hresult] at h
    contradiction

/-- A run that gives no answer got none from any attempt that the policy allows. -/
theorem all_failed_of_run {error : GuideError}
    (h : (run model policy parts instruction).result = .error error) :
    ∀ attempt ≤ policy.maxRetries, ∃ error, answer model policy attempt = .error error := by
  unfold run at h
  intro attempt hattempt
  rcases attemptFrom_cases model policy parts instruction 0 0 policy.maxRetries with
    ⟨generation, last, hresult, -⟩ | ⟨last, -, hlast, hearlier⟩
  · rw [hresult] at h
    contradiction
  · rw [Nat.zero_add] at hlast hearlier
    rcases Nat.eq_or_lt_of_le hattempt with rfl | hlt
    · exact ⟨last, hlast⟩
    · exact hearlier attempt (Nat.zero_le _) hlt

theorem finalError_ne_noCredits (error : GuideError) (balance : Int) :
    finalError policy error ≠ .noCredits balance := by
  cases error <;> simp [finalError]

/-- Whatever the model says of credits, a run of attempts reports a failed model. -/
theorem run_error_ne_noCredits (balance : Int) :
    (run model policy parts instruction).result ≠ .error (.noCredits balance) := by
  unfold run
  rcases attemptFrom_cases model policy parts instruction 0 0 policy.maxRetries with
    ⟨generation, last, hresult, -⟩ | ⟨error, hresult, -⟩
  · rw [hresult]
    exact fun h ↦ by contradiction
  · rw [hresult]
    exact fun h ↦ finalError_ne_noCredits error balance (Except.error.inj h)

/-- An attempt is one call, and the calls of the next one may follow it. -/
theorem calls_attemptFrom (model : Model) (policy : RetryPolicy) (parts : List MediaPart)
    (instruction : Text) (attempt clock left : Nat) :
    ∃ more, (attemptFrom model policy parts instruction attempt clock left).calls =
        { atMs := clock + waitBefore policy attempt, parts, instruction } :: more ∧
      (more = [] ∨ ∃ later fewer, left = fewer + 1 ∧
        more = (attemptFrom model policy parts instruction (attempt + 1) later fewer).calls) := by
  rcases hsettle : settle policy (model attempt) with ⟨error | generation, time⟩
  · cases left with
    | zero =>
      refine ⟨[], ?_, Or.inl rfl⟩
      rw [attemptFrom, hsettle]
    | succ fewer =>
      refine ⟨_, ?_, Or.inr ⟨clock + waitBefore policy attempt + time, fewer, rfl, rfl⟩⟩
      conv => lhs; unfold attemptFrom
      rw [hsettle]
  · refine ⟨[], ?_, Or.inl rfl⟩
    rw [attemptFrom, hsettle]

/-- Every attempt asks the same. -/
theorem mem_calls_attemptFrom {call : Call}
    (h : call ∈ (attemptFrom model policy parts instruction attempt clock left).calls) :
    call.parts = parts ∧ call.instruction = instruction := by
  induction left generalizing attempt clock with
  | zero =>
    obtain ⟨more, hcalls, rfl | ⟨later, fewer, hleft, -⟩⟩ :=
      calls_attemptFrom model policy parts instruction attempt clock 0
    · rw [hcalls, List.mem_singleton] at h
      exact h ▸ ⟨rfl, rfl⟩
    · contradiction
  | succ left ih =>
    obtain ⟨more, hcalls, hmore⟩ :=
      calls_attemptFrom model policy parts instruction attempt clock (left + 1)
    rw [hcalls] at h
    rcases List.mem_cons.mp h with rfl | hrest
    · exact ⟨rfl, rfl⟩
    · rcases hmore with rfl | ⟨later, fewer, hleft, rfl⟩
      · exact absurd hrest List.not_mem_nil
      · obtain rfl := Nat.succ.inj hleft
        exact ih hrest

theorem parts_of_mem_calls_run {call : Call}
    (h : call ∈ (run model policy parts instruction).calls) : call.parts = parts :=
  (mem_calls_attemptFrom h).1

/-- The model is called at least once. -/
theorem calls_run_ne_nil : (run model policy parts instruction).calls ≠ [] := by
  unfold run attemptFrom
  rcases settle policy (model 0) with ⟨outcome | outcome, time⟩
  · cases policy.maxRetries <;> simp
  · simp

end StudyGuide.Retry
