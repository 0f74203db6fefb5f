import StudyGuide.Proofs.Inputs.CompletionOrder

/-!
What watchers are told of a run. A run goes through its stages in order and stops at the first that
fails, and each stage tells of itself when it is reached: the reading once for every input, in the
order in which the readings end, then the question, then the answer and what was compiled of it.
So there are four traces, told apart by the stage that a run reaches (`Run.Told`); drawing and
payment come after the last event and are told of by nobody. The numbers that a delivered guide
holds are those that were told (`Run.told_run`).
-/

set_option autoImplicit false
set_option relaxedAutoImplicit false

namespace StudyGuide

/-! ### One event for each input -/

section Readings

variable (resolve : Nat → Text → Except GuideError Media) (inputs : List Text)

/-- The input at this position was read, and the event says how many bytes it has. -/
def TellsSize (index : Nat) (event : Event) : Prop :=
  ∃ source media, inputs[index]? = some source ∧ resolve index source = .ok media ∧
    event = .encoded index inputs.length media.bytes.length

/-- The input at this position could not be read, and the event says why. -/
def TellsFailure (index : Nat) (event : Event) : Prop :=
  ∃ source error, inputs[index]? = some source ∧ resolve index source = .error error ∧
    event = .failed index inputs.length error.message

/-- One event for each position, in some order. -/
def OnePerInput (tells : Nat → Event → Prop) (events : List Event) : Prop :=
  ∃ order : List Nat, order.Perm (List.range inputs.length) ∧ List.Forall₂ tells order events

end Readings

namespace Run

variable {workshop : Workshop} {config : Config} {inputs : List Text} {ledger : Option Ledger}

theorem mem_inOrder_of_mem_arrivals {arrival : Arrival}
    (h : arrival ∈ arrivals workshop config inputs) :
    ∃ source, inputs[arrival.index]? = some source ∧
      arrival.outcome = workshop.resolve arrival.index source :=
  (Arrival.mem_inOrder_iff ..).mp ((Arrival.all_perm_inOrder ..).subset h)

/-- Each position arrives once. -/
theorem indices_arrivals_perm (workshop : Workshop) (config : Config) (inputs : List Text) :
    ((arrivals workshop config inputs).map Arrival.index).Perm (List.range inputs.length) := by
  have hindices : (Arrival.inOrder workshop.resolve inputs).map Arrival.index =
      List.range inputs.length := by
    have hsnd : (Arrival.inOrder workshop.resolve inputs).map Arrival.index =
        inputs.zipIdx.map Prod.snd := by
      rw [Arrival.inOrder, List.map_map]
      rfl
    rw [hsnd, List.zipIdx_map_snd, List.range_eq_range']
  exact hindices ▸ (Arrival.all_perm_inOrder ..).map Arrival.index

theorem onePerInput_of_arrivals {tells : Nat → Event → Prop}
    (h : ∀ arrival ∈ arrivals workshop config inputs,
      tells arrival.index (arrivalEvent inputs.length arrival)) :
    OnePerInput inputs tells
      ((arrivals workshop config inputs).map (arrivalEvent inputs.length)) := by
  refine ⟨_, indices_arrivals_perm workshop config inputs, ?_⟩
  rw [List.forall₂_map_left_iff, List.forall₂_map_right_iff, List.forall₂_same]
  exact h

theorem tells_arrivalEvent {arrival : Arrival}
    (h : arrival ∈ arrivals workshop config inputs) :
    TellsSize workshop.resolve inputs arrival.index (arrivalEvent inputs.length arrival) ∨
      TellsFailure workshop.resolve inputs arrival.index
        (arrivalEvent inputs.length arrival) := by
  obtain ⟨source, hsource, houtcome⟩ := mem_inOrder_of_mem_arrivals h
  unfold arrivalEvent
  cases hread : workshop.resolve arrival.index source with
  | ok media =>
    rw [houtcome, hread]
    exact Or.inl ⟨source, media, hsource, hread, rfl⟩
  | error error =>
    rw [houtcome, hread]
    exact Or.inr ⟨source, error, hsource, hread, rfl⟩

theorem tellsSize_arrivalEvent (hread : AllRead workshop.resolve inputs) {arrival : Arrival}
    (h : arrival ∈ arrivals workshop config inputs) :
    TellsSize workshop.resolve inputs arrival.index (arrivalEvent inputs.length arrival) := by
  refine (tells_arrivalEvent h).resolve_right ?_
  rintro ⟨source, error, hsource, hfailed, -⟩
  obtain ⟨media, hmedia⟩ := hread arrival.index source hsource
  rw [hmedia] at hfailed
  contradiction

theorem exists_collect_eq_ok_iff :
    (∃ media, Arrival.collect (arrivals workshop config inputs) = .ok media) ↔
      AllRead workshop.resolve inputs :=
  Arrival.exists_collect_all_eq_ok_iff ..

/-! ### The answer and the compilation -/

/-- What a compilation under this configuration reports of a text. -/
def reportOf (config : Config) (rawText : Text) : Compilation.Report :=
  (Compilation.compileWith config.sanitizer config.defaultTitle rawText config.author).2

/-- What is told of an answer, once it is there. -/
def answerEvents (config : Config) (rawText : Text) (retries : Nat) : List Event :=
  [.generationComplete (Text.byteLength rawText) retries,
    .compileComplete (reportOf config rawText).blocks (reportOf config rawText).droppedLines]

theorem events_makeFrom_of_failed {told : List Event} {media : List Media} {error : GuideError}
    (h : (ask workshop config media).result = .error error) :
    (makeFrom workshop config told media).events = told ++ [.generationStart media.length] := by
  unfold makeFrom
  dsimp only
  rw [h]

theorem events_makeFrom_of_answered {told : List Event} {media : List Media}
    {generation : Generation} {retries : Nat}
    (h : (ask workshop config media).result = .ok (generation, retries)) :
    (makeFrom workshop config told media).events =
      told ++ .generationStart media.length :: answerEvents config generation.text retries := by
  unfold makeFrom
  dsimp only
  rw [h]
  exact List.append_assoc ..

/-- A guide holds the counts of its compilation beside what was known before. -/
theorem counts_of_build {render : Renderer} {rawText : Text} {stats : Stats} {guide : Guide}
    (h : (Guide.build render config rawText stats).2 = .ok guide) :
    guide.rawText = rawText ∧ guide.stats.retries = stats.retries ∧
      guide.stats.blocks = (reportOf config rawText).blocks ∧
      guide.stats.droppedLines = (reportOf config rawText).droppedLines := by
  unfold Guide.build at h
  dsimp only at h
  cases hrendered : render (.ofDocument config.theme
      (Compilation.compileWith config.sanitizer config.defaultTitle rawText config.author).1) with
  | error error =>
    rw [hrendered] at h
    contradiction
  | ok rendered =>
    rw [hrendered] at h
    obtain rfl := Except.ok.inj h
    exact ⟨rfl, rfl, rfl, rfl⟩

/-! ### Traces -/

/-- The traces of a run, by the stage that it reaches. -/
inductive Told (workshop : Workshop) (config : Config) (inputs : List Text)
    (ledger : Option Ledger) : List Event → Prop where
  /-- Nothing is told of a run that is not admitted. -/
  | refused (hrefused : ¬(inputs ≠ [] ∧ GateOpen ledger)) : Told workshop config inputs ledger []
  /-- Some input cannot be read. Of every input it is told what came of it, and no more. -/
  | unread {reading : List Event} (hbegun : inputs ≠ [] ∧ GateOpen ledger)
      (hfailed : ¬AllRead workshop.resolve inputs)
      (hreading : OnePerInput inputs (fun index event ↦
        TellsSize workshop.resolve inputs index event ∨
          TellsFailure workshop.resolve inputs index event) reading) :
      Told workshop config inputs ledger (.encodeStart inputs.length :: reading)
  /-- Everything is read and the model asked, and no attempt is answered. -/
  | unanswered {reading : List Event} (hbegun : inputs ≠ [] ∧ GateOpen ledger)
      (hread : AllRead workshop.resolve inputs)
      (hreading : OnePerInput inputs (TellsSize workshop.resolve inputs) reading)
      (hfailed : ∀ attempt ≤ config.maxRetries, ∃ error,
        Retry.answer workshop.model config.retryPolicy attempt = .error error) :
      Told workshop config inputs ledger
        (.encodeStart inputs.length :: (reading ++ [.generationStart inputs.length]))
  /-- The model answers, and the answer is compiled, whatever comes of the guide after that. -/
  | compiled {reading : List Event} {generation : Generation} {retries : Nat}
      (hbegun : inputs ≠ [] ∧ GateOpen ledger) (hread : AllRead workshop.resolve inputs)
      (hreading : OnePerInput inputs (TellsSize workshop.resolve inputs) reading)
      (hanswered : Retry.IsFirstAnswer workshop.model config.retryPolicy retries generation) :
      Told workshop config inputs ledger
        (.encodeStart inputs.length :: (reading ++ .generationStart inputs.length ::
          answerEvents config generation.text retries))

/-- A delivered guide is the one that was made, but for the balance that is left. -/
theorem exists_made_of_run {guide : Guide}
    (h : (run workshop config inputs ledger).result = .ok guide) :
    ∃ made, (make workshop config inputs).result = .ok made ∧ guide.rawText = made.rawText ∧
      guide.stats.retries = made.stats.retries ∧ guide.stats.blocks = made.stats.blocks ∧
      guide.stats.droppedLines = made.stats.droppedLines := by
  obtain ⟨made, hmade, ⟨-, rfl, -⟩ | ⟨_, -, -, rfl, -⟩⟩ := of_run_eq_ok h
  · exact ⟨guide, hmade, rfl, rfl, rfl, rfl⟩
  · exact ⟨made, hmade, rfl, rfl, rfl, rfl⟩

theorem begun_of_run {guide : Guide}
    (h : (run workshop config inputs ledger).result = .ok guide) :
    inputs ≠ [] ∧ GateOpen ledger := by
  rcases run_cases workshop config inputs ledger with ⟨-, error, hrun⟩ | ⟨hbegun, -⟩
  · rw [hrun] at h
    contradiction
  · exact hbegun

theorem events_run_of_begun (hbegun : inputs ≠ [] ∧ GateOpen ledger) :
    (run workshop config inputs ledger).events = (make workshop config inputs).events := by
  rw [run_eq_of_open hbegun.1 hbegun.2]

/-- What was told of everything that could be read. -/
theorem onePerInput_of_collect {media : List Media}
    (h : Arrival.collect (arrivals workshop config inputs) = .ok media) :
    OnePerInput inputs (TellsSize workshop.resolve inputs)
      ((arrivals workshop config inputs).map (arrivalEvent inputs.length)) :=
  onePerInput_of_arrivals fun _ ↦ tellsSize_arrivalEvent (exists_collect_eq_ok_iff.mp ⟨media, h⟩)

theorem told_make (hbegun : inputs ≠ [] ∧ GateOpen ledger) :
    Told workshop config inputs ledger (make workshop config inputs).events := by
  cases hcollect : Arrival.collect (arrivals workshop config inputs) with
  | error error =>
    have hfailed : ¬AllRead workshop.resolve inputs := by
      intro hread
      obtain ⟨media, hmedia⟩ := exists_collect_eq_ok_iff.mpr hread
      rw [hcollect] at hmedia
      contradiction
    rw [make_of_collect_error hcollect]
    exact .unread hbegun hfailed (onePerInput_of_arrivals fun _ ↦ tells_arrivalEvent)
  | ok media =>
    have hread : AllRead workshop.resolve inputs :=
      exists_collect_eq_ok_iff.mp ⟨media, hcollect⟩
    have hreading := onePerInput_of_collect hcollect
    rw [make_of_collect_ok hcollect]
    cases hasked : (ask workshop config media).result with
    | error error =>
      rw [events_makeFrom_of_failed hasked, Arrival.length_of_collect_all _ hcollect]
      exact .unanswered hbegun hread hreading (Retry.all_failed_of_run hasked)
    | ok answered =>
      obtain ⟨generation, retries⟩ := answered
      rw [events_makeFrom_of_answered hasked, Arrival.length_of_collect_all _ hcollect]
      exact .compiled hbegun hread hreading (Retry.isFirstAnswer_of_run hasked)

/-- The whole trace, in the numbers of a guide. -/
def TellsGuide (workshop : Workshop) (inputs : List Text) (guide : Guide) (events : List Event) :
    Prop :=
  ∃ reading, OnePerInput inputs (TellsSize workshop.resolve inputs) reading ∧
    events = .encodeStart inputs.length :: (reading ++
      [.generationStart inputs.length,
        .generationComplete (Text.byteLength guide.rawText) guide.stats.retries,
        .compileComplete guide.stats.blocks guide.stats.droppedLines])

theorem tellsGuide_make {made : Guide} (h : (make workshop config inputs).result = .ok made) :
    TellsGuide workshop inputs made (make workshop config inputs).events := by
  obtain ⟨media, generation, retries, hcollect, hasked, hbuild⟩ := make_eq_ok h
  obtain ⟨hraw, hretries, hblocks, hdropped⟩ := counts_of_build hbuild
  refine ⟨_, onePerInput_of_collect hcollect, ?_⟩
  rw [make_of_collect_ok hcollect, events_makeFrom_of_answered hasked,
    Arrival.length_of_collect_all _ hcollect, hraw, hretries, hblocks, hdropped]
  rfl

/-- The events of a run are one of the four traces, the one of the stage that it reaches. Once a
guide is made its trace is whole, whatever comes of the payment, and those of a run that delivers
are told in the numbers of its guide. -/
theorem told_run (workshop : Workshop) (config : Config) (inputs : List Text)
    (ledger : Option Ledger) :
    let outcome := run workshop config inputs ledger
    Told workshop config inputs ledger outcome.events ∧
      (∀ made, inputs ≠ [] ∧ GateOpen ledger → (make workshop config inputs).result = .ok made →
        TellsGuide workshop inputs made outcome.events) ∧
      ∀ guide, outcome.result = .ok guide → TellsGuide workshop inputs guide outcome.events := by
  intro outcome
  refine ⟨?_, fun made hbegun hmade ↦ ?_, fun guide hguide ↦ ?_⟩
  · rcases run_cases workshop config inputs ledger with ⟨hrefused, error, hrun⟩ | ⟨hbegun, hrun⟩
    · simp only [outcome, hrun]
      exact .refused hrefused
    · simp only [outcome, hrun]
      exact told_make hbegun
  · simp only [outcome, events_run_of_begun hbegun]
    exact tellsGuide_make hmade
  · obtain ⟨made, hmade, hraw, hretries, hblocks, hdropped⟩ := exists_made_of_run hguide
    rw [TellsGuide, hraw, hretries, hblocks, hdropped]
    simp only [outcome, events_run_of_begun (begun_of_run hguide)]
    exact tellsGuide_make hmade

end Run

end StudyGuide
