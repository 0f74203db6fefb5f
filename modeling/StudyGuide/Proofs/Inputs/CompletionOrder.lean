import Mathlib.Data.Nat.Find
import StudyGuide.Proofs.Credits.Payment
import StudyGuide.Proofs.Inputs.Base64

/-!
The order in which reads end is invisible to a run. What arrives is put back by position before
anything looks at it, so a run comes to the same, asks the model the same and leaves the ledger
the same, whichever read ends first and however many are in hand at once; only watchers are told
in another order (`run_eq_of_choices`).

What the model is asked with is then told by the inputs alone: one part for each, in their order,
which carries the content of its input, on the first attempt and on every retry; and when inputs
cannot be read, the first of them decides and the model is not asked (`run_readsInOrder`).
-/

set_option autoImplicit false
set_option relaxedAutoImplicit false

namespace StudyGuide

/-- A part is sent for an input: it names the type of the input, and its data read back to the
content. -/
structure MediaPart.Carries (part : MediaPart) (media : Media) : Prop where
  mimeType_eq : part.mimeType = media.mimeType
  encoding : Base64.IsEncoding media.bytes part.data

theorem Media.carries_toPart (media : Media) : media.toPart.Carries media where
  mimeType_eq := rfl
  encoding := Base64.isEncoding_encode media.bytes

/-! ### Readings -/

section Readings

variable (resolve : Nat → Text → Except GuideError Media) (inputs : List Text)

/-- Every input can be read. -/
def AllRead : Prop :=
  ∀ index source, inputs[index]? = some source → ∃ media, resolve index source = .ok media

/-- The input at this position cannot be read, and those before it can. -/
structure FirstFailure (index : Nat) (error : GuideError) : Prop where
  failed : ∃ source, inputs[index]? = some source ∧ resolve index source = .error error
  earlier_read : ∀ earlier < index, ∀ source, inputs[earlier]? = some source →
    ∃ media, resolve earlier source = .ok media

end Readings

namespace Arrival

variable {resolve : Nat → Text → Except GuideError Media} {inputs : List Text}

/-- Where an input cannot be read, there is a first such one. -/
theorem exists_firstFailure (h : ¬AllRead resolve inputs) :
    ∃ index error, FirstFailure resolve inputs index error := by
  classical
  have hfails : ∃ index, ∃ source error,
      inputs[index]? = some source ∧ resolve index source = .error error := by
    by_contra hnone
    refine h fun index source hsource ↦ ?_
    cases hread : resolve index source with
    | ok media => exact ⟨media, rfl⟩
    | error error => exact absurd ⟨index, source, error, hsource, hread⟩ hnone
  obtain ⟨source, error, hsource, hread⟩ := Nat.find_spec hfails
  refine ⟨Nat.find hfails, error, ⟨source, hsource, hread⟩, fun earlier hlt other hother ↦ ?_⟩
  cases hearlier : resolve earlier other with
  | ok media => exact ⟨media, rfl⟩
  | error early => exact absurd ⟨other, early, hother, hearlier⟩ (Nat.find_min hfails hlt)

/-- The first failure is what a collection comes to. -/
theorem collect_all_of_firstFailure (limit : Nat) (choices : List Nat) {index : Nat}
    {error : GuideError} (h : FirstFailure resolve inputs index error) :
    collect (all resolve limit choices inputs) = .error error := by
  obtain ⟨source, hsource, hread⟩ := h.failed
  obtain ⟨hindex, hget⟩ := List.getElem?_eq_some_iff.mp hsource
  have hlength : index < inputs.zipIdx.length := by rwa [List.length_zipIdx]
  have hsplit : inputs.zipIdx =
      inputs.zipIdx.take index ++ (source, index) :: inputs.zipIdx.drop (index + 1) := by
    have hitem : inputs.zipIdx[index] = (source, index) := by
      rw [List.getElem_zipIdx, hget, Nat.zero_add]
    rw [← hitem, List.getElem_cons_drop, List.take_append_drop]
  rw [collect_all, hsplit]
  refine mapM_append_cons_eq_error _ (fun item hitem ↦ ?_) hread
  obtain ⟨earlier, hearlier, rfl⟩ := List.getElem_of_mem hitem
  have hlt : earlier < index := Nat.lt_of_lt_of_le hearlier (List.length_take_le _ _)
  rw [List.getElem_take, List.getElem_zipIdx, Nat.zero_add]
  exact h.earlier_read earlier hlt _ (List.getElem?_eq_getElem _)

/-- What is collected stands where its input stands. -/
theorem getElem?_of_collect_all {limit : Nat} {choices : List Nat} {media : List Media}
    (h : collect (all resolve limit choices inputs) = .ok media) {index : Nat} {source : Text}
    {one : Media} (hsource : inputs[index]? = some source)
    (hread : resolve index source = .ok one) : media[index]? = some one := by
  rw [collect_all] at h
  have hread_all := (mapM_eq_ok_iff _ _ _).mp h
  obtain ⟨hindex, hget⟩ := List.getElem?_eq_some_iff.mp hsource
  have hmedia : index < media.length := by
    rw [← hread_all.length_eq, List.length_zipIdx]
    exact hindex
  have hitem := hread_all.get (by rwa [List.length_zipIdx]) hmedia
  rw [List.get_eq_getElem, List.get_eq_getElem, List.getElem_zipIdx] at hitem
  simp only [Nat.zero_add, hget, hread] at hitem
  rw [List.getElem?_eq_getElem hmedia, Except.ok.inj hitem]

end Arrival

/-- The same but for the order in which watchers were told. -/
structure Making.SameButOrder (first second : Making) : Prop where
  result : first.result = second.result
  calls : first.calls = second.calls
  events : first.events.Perm second.events

namespace Run

variable {workshop : Workshop} {config : Config} {inputs : List Text} {ledger : Option Ledger}

/-! ### Makings -/

/-- What watchers were told before makes no difference to what follows. -/
theorem makeFrom_eq (workshop : Workshop) (config : Config) (told : List Event)
    (media : List Media) :
    makeFrom workshop config told media =
      { makeFrom workshop config [] media with
        events := told ++ (makeFrom workshop config [] media).events } := by
  unfold makeFrom
  dsimp only
  cases (ask workshop config media).result with
  | error error => rw [List.nil_append]
  | ok answered =>
    dsimp only
    rw [List.nil_append, List.append_assoc]

theorem calls_makeFrom (workshop : Workshop) (config : Config) (told : List Event)
    (media : List Media) :
    (makeFrom workshop config told media).calls = (ask workshop config media).calls := by
  unfold makeFrom
  dsimp only
  cases (ask workshop config media).result <;> rfl

theorem make_of_collect_ok {media : List Media}
    (h : Arrival.collect (arrivals workshop config inputs) = .ok media) :
    make workshop config inputs =
      makeFrom workshop config (readingEvents inputs.length (arrivals workshop config inputs))
        media := by
  unfold make
  dsimp only
  rw [h]

theorem make_of_collect_error {error : GuideError}
    (h : Arrival.collect (arrivals workshop config inputs) = .error error) :
    make workshop config inputs =
      { result := .error error, calls := []
        events := readingEvents inputs.length (arrivals workshop config inputs) } := by
  unfold make
  dsimp only
  rw [h]

/-- With other choices and another limit the same arrives, in another order. -/
theorem arrivals_perm (workshop : Workshop) (config : Config) (inputs : List Text)
    (choices : List Nat) (concurrency : Nat) :
    (arrivals { workshop with choices } { config with concurrency } inputs).Perm
      (arrivals workshop config inputs) :=
  (Arrival.all_perm_inOrder ..).trans (Arrival.all_perm_inOrder ..).symm

theorem readingEvents_perm (total : Nat) {first second : List Arrival} (h : first.Perm second) :
    (readingEvents total first).Perm (readingEvents total second) :=
  (h.map _).cons _

theorem make_sameButOrder (workshop : Workshop) (config : Config) (inputs : List Text)
    (choices : List Nat) (concurrency : Nat) :
    Making.SameButOrder (make { workshop with choices } { config with concurrency } inputs)
      (make workshop config inputs) := by
  have hcollect : Arrival.collect
        (arrivals { workshop with choices } { config with concurrency } inputs) =
      Arrival.collect (arrivals workshop config inputs) := by
    rw [arrivals, arrivals, Arrival.collect_all, Arrival.collect_all]
  have hevents := readingEvents_perm inputs.length
    (arrivals_perm workshop config inputs choices concurrency)
  cases h : Arrival.collect (arrivals workshop config inputs) with
  | error error =>
    rw [make_of_collect_error h, make_of_collect_error (hcollect.trans h)]
    exact ⟨rfl, rfl, hevents⟩
  | ok media =>
    rw [make_of_collect_ok h, make_of_collect_ok (hcollect.trans h), makeFrom_eq,
      makeFrom_eq workshop config]
    exact ⟨rfl, rfl, hevents.append_right _⟩

/-! ### Runs -/

/-- What a run comes to is told by the inputs, in the order they were asked for. -/
structure ReadsInOrder (workshop : Workshop) (config : Config) (inputs : List Text)
    (ledger : Option Ledger) (outcome : Outcome) : Prop where
  /-- With room for all inputs their readings may end in any order, and there are choices for each
  of these orders. -/
  every_order : ∀ done, done.Perm inputs.zipIdx →
    ∃ choices, Arrival.order inputs.length choices inputs.zipIdx = done
  /-- When everything is read the model is asked, and each of its calls, the first and every retry,
  has one part for each input, which carries the content of the input at its position. -/
  sent : AllRead workshop.resolve inputs →
    outcome.calls ≠ [] ∧ ∀ call ∈ outcome.calls, call.parts.length = inputs.length ∧
      ∀ index source media, inputs[index]? = some source →
        workshop.resolve index source = .ok media →
          ∃ part, call.parts[index]? = some part ∧ part.Carries media
  /-- When something cannot be read, the first such input decides and the model is not asked. -/
  refused : ¬AllRead workshop.resolve inputs →
    ∃ index error, FirstFailure workshop.resolve inputs index error ∧
      outcome.result = .error error ∧ outcome.calls = []
  /-- Other choices and another number of readings at once change nothing but the order in which
  watchers are told. -/
  invisible : ∀ choices concurrency,
    let other := run { workshop with choices } { config with concurrency } inputs ledger
    outcome.toMaking.SameButOrder other.toMaking ∧ outcome.ledger = other.ledger

theorem run_eq_of_open (hinputs : inputs ≠ []) (hgate : GateOpen ledger) (workshop : Workshop)
    (config : Config) :
    run workshop config inputs ledger =
      { make workshop config inputs with
        result := (pay ledger (make workshop config inputs).result).2
        ledger := (pay ledger (make workshop config inputs).result).1 } := by
  rcases run_cases workshop config inputs ledger with ⟨hrefused, -⟩ | ⟨-, hrun⟩
  · exact absurd ⟨hinputs, hgate⟩ hrefused
  · exact hrun

theorem pay_error (ledger : Option Ledger) (error : GuideError) :
    pay ledger (.error error) = (ledger, .error error) := by
  cases ledger <;> rfl

/-- Every call is made with the parts of everything that was read. -/
theorem parts_of_mem_calls_make {media : List Media}
    (hmedia : Arrival.collect (arrivals workshop config inputs) = .ok media) {call : Call}
    (hcall : call ∈ (make workshop config inputs).calls) :
    call.parts = media.map Media.toPart := by
  rw [make_of_collect_ok hmedia, calls_makeFrom] at hcall
  exact Retry.parts_of_mem_calls_run hcall

/-- The order in which reads end leaves no trace in what a run comes to. -/
theorem run_eq_of_choices (workshop : Workshop) (config : Config) (inputs : List Text)
    (ledger : Option Ledger) (choices : List Nat) (concurrency : Nat) :
    let first := run workshop config inputs ledger
    let other := run { workshop with choices } { config with concurrency } inputs ledger
    first.toMaking.SameButOrder other.toMaking ∧ first.ledger = other.ledger := by
  have hmake := make_sameButOrder workshop config inputs choices concurrency
  unfold run
  dsimp only
  split_ifs with hinputs
  · exact ⟨⟨rfl, rfl, .refl _⟩, rfl⟩
  · cases gate ledger with
    | error error => exact ⟨⟨rfl, rfl, .refl _⟩, rfl⟩
    | ok begun =>
      dsimp only
      rw [hmake.result]
      exact ⟨⟨rfl, hmake.calls.symm, hmake.events.symm⟩, rfl⟩

/-- A run that is admitted is told by its inputs in their order, whichever is read first. -/
theorem run_readsInOrder (workshop : Workshop) (config : Config) {inputs : List Text}
    {ledger : Option Ledger} (hinputs : inputs ≠ []) (hgate : GateOpen ledger) :
    ReadsInOrder workshop config inputs ledger (run workshop config inputs ledger) where
  every_order := fun done hdone ↦
    Arrival.exists_order_eq_of_perm hdone (Nat.le_of_eq List.length_zipIdx)
  sent := fun hread ↦ by
    obtain ⟨media, hmedia⟩ := (Arrival.exists_collect_all_eq_ok_iff workshop.resolve
      (max config.concurrency 1) workshop.choices inputs).mpr hread
    have hcollect : Arrival.collect (arrivals workshop config inputs) = .ok media := hmedia
    rw [run_eq_of_open hinputs hgate]
    refine ⟨calls_make_ne_nil_iff.mpr ⟨media, hcollect⟩, fun call hcall ↦ ?_⟩
    rw [parts_of_mem_calls_make hcollect hcall]
    refine ⟨?_, fun index source one hsource hone ↦ ?_⟩
    · rw [List.length_map, Arrival.length_of_collect_all workshop.resolve hmedia]
    · have hmedium := Arrival.getElem?_of_collect_all hmedia hsource hone
      exact ⟨one.toPart, by rw [List.getElem?_map, hmedium, Option.map_some], one.carries_toPart⟩
  refused := fun hunread ↦ by
    obtain ⟨index, error, hfirst⟩ := Arrival.exists_firstFailure hunread
    have hcollect : Arrival.collect (arrivals workshop config inputs) = .error error :=
      Arrival.collect_all_of_firstFailure _ _ hfirst
    refine ⟨index, error, hfirst, ?_⟩
    rw [run_eq_of_open hinputs hgate, make_of_collect_error hcollect, pay_error]
    exact ⟨rfl, rfl⟩
  invisible := run_eq_of_choices workshop config inputs ledger

/-- A photo and a recording of which the second is read first, for a model that answers when it is
asked again. -/
def lateFirst : Workshop where
  resolve := fun index source ↦
    .ok
      { index, source, bytes := [0xFF, index.toUInt8]
        mimeType := if index = 0 then "image/png" else "audio/ogg" }
  choices := [1]
  model := .ofScript [.mk (.error (.generationFailed 1 ['b', 'u', 's', 'y'])) 0,
    .mk (.ok { text := ['T'], inputTokens := 0, outputTokens := 0 }) 0]

/-- What was read last is sent first all the same, when it was asked for first. -/
theorem late_first_input_sent_first :
    let inputs : List Text := [['a'], ['b']]
    let ledger : Option Ledger := some { balance := 1 }
    inputs ≠ [] ∧ GateOpen ledger ∧
      (arrivals lateFirst {} inputs).map Arrival.index = [1, 0] ∧
      ∀ call ∈ (run lateFirst {} inputs ledger).calls,
        ∃ part, call.parts[0]? = some part ∧
          part.mimeType = ("image/png" : Text) ∧ Base64.decode part.data = some [0xFF, 0] := by
  intro inputs ledger
  have hinputs : inputs ≠ [] := by decide
  have hgate : GateOpen ledger := by
    intro before hbefore
    obtain rfl := Option.some.inj hbefore
    exact ⟨rfl, by decide⟩
  have hread : AllRead lateFirst.resolve inputs := by
    intro index source _
    exact ⟨_, rfl⟩
  refine ⟨hinputs, hgate, by decide, fun call hcall ↦ ?_⟩
  obtain ⟨-, hparts⟩ := ((run_readsInOrder lateFirst {} hinputs hgate).sent hread).2 call hcall
  obtain ⟨part, hpart, hcarries⟩ := hparts 0 ['a'] _ rfl rfl
  exact ⟨part, hpart, hcarries.mimeType_eq, hcarries.encoding.decodes⟩

end Run

end StudyGuide
