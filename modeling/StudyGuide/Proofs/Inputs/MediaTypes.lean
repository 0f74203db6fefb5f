import Mathlib.Tactic.SplitIfs
import StudyGuide.Media.Kind

/-!
How media types are found. A name stands for an accepted type if it is one of its aliases, in any
case (`Names`), and it stands for one type at most (`canonical?_eq_some_iff`). The canonical names
are aliases of themselves, so a type that was found is found again when it is declared.

Three stages look for a type, each where those before it find none: the declared name, the path
and the first bytes (`Recognises`). `Detector.isSteady` says what this order means for whoever
asks: what decides, what makes no difference, and when and how an input is refused. It holds
whatever types are known by their extensions and whatever formats by their bytes.
-/

set_option autoImplicit false
set_option relaxedAutoImplicit false

namespace StudyGuide.MediaType

/-- The names that types are found under. -/
def canonicalTypes : List Text := [
  "image/png", "image/jpeg", "image/webp", "audio/mpeg", "audio/wav", "audio/mp4", "audio/ogg"]

/-- The name stands for the accepted type, whatever the case of its letters. -/
def Names (name mimeType : Text) : Prop := (name.map Char.toLower, mimeType) ∈ accepted

/-! ### Names -/

theorem eq_of_alias_eq :
    ∀ first ∈ accepted, ∀ second ∈ accepted, first.1 = second.1 → first = second := by
  decide +kernel

theorem mem_canonicalTypes_of_mem_accepted : ∀ entry ∈ accepted, entry.2 ∈ canonicalTypes := by
  decide +kernel

theorem names_of_mem_canonicalTypes : ∀ mimeType ∈ canonicalTypes, Names mimeType mimeType := by
  unfold Names
  decide +kernel

theorem canonical?_eq_none_iff (name : Text) :
    canonical? name = none ↔ ¬∃ mimeType, Names name mimeType := by
  unfold canonical? Names
  simp only [Option.map_eq_none_iff, List.find?_eq_none, beq_iff_eq]
  constructor
  · rintro hnone ⟨mimeType, hmem⟩
    exact hnone _ hmem rfl
  · rintro hnone ⟨known, mimeType⟩ hmem rfl
    exact hnone ⟨mimeType, hmem⟩

theorem names_of_canonical? {name mimeType : Text} (h : canonical? name = some mimeType) :
    Names name mimeType := by
  obtain ⟨⟨known, found⟩, hfind, rfl⟩ := Option.map_eq_some_iff.mp h
  have hmem := List.mem_of_find?_eq_some hfind
  have hknown : known = name.map Char.toLower := by
    simpa [Text.asciiLower] using List.find?_some hfind
  rwa [hknown] at hmem

theorem canonical?_eq_some_iff (name mimeType : Text) :
    canonical? name = some mimeType ↔ Names name mimeType := by
  refine ⟨names_of_canonical?, fun hnames ↦ ?_⟩
  have hsome : canonical? name ≠ none := fun hnone ↦
    (canonical?_eq_none_iff name).mp hnone ⟨mimeType, hnames⟩
  obtain ⟨found, hfound⟩ := Option.ne_none_iff_exists'.mp hsome
  have hentry := eq_of_alias_eq _ (names_of_canonical? hfound) _ hnames rfl
  rw [hfound, (Prod.mk.inj hentry).2]

/-! ### First bytes -/

/-- All the marks stand at their places. -/
def Shows (bytes : Bytes) (marks : List (Nat × Bytes)) : Prop :=
  ∀ mark ∈ marks, mark.2 <+: bytes.drop mark.1

theorem shows_iff (bytes : Bytes) (marks : List (Nat × Bytes)) :
    (marks.all fun (start, mark) ↦ bytes.hasAt start mark) = true ↔ Shows bytes marks := by
  simp [Shows, Bytes.hasAt, Bytes.startsWith]

theorem exists_shows_of_audioOfBytes? {bytes : Bytes} {mimeType : Text}
    (h : audioOfBytes? bytes = some mimeType) :
    ∃ marks, (mimeType, marks) ∈ audioMarks ∧ Shows bytes marks := by
  obtain ⟨⟨found, marks⟩, hfind, rfl⟩ := Option.map_eq_some_iff.mp h
  have hshown := List.find?_some hfind
  exact ⟨marks, List.mem_of_find?_eq_some hfind, (shows_iff bytes marks).mp hshown⟩

theorem audioOfBytes?_eq_none_iff (bytes : Bytes) :
    audioOfBytes? bytes = none ↔ ∀ entry ∈ audioMarks, ¬Shows bytes entry.2 := by
  unfold audioOfBytes?
  simp only [Option.map_eq_none_iff, List.find?_eq_none, shows_iff]

/-! ### Stages -/

/-- The input shows the type to one of the stages. -/
inductive Recognises (detector : Detector) (source : Text) (bytes : Bytes)
    (declared : Option Text) (mimeType : Text) : Prop where
  | declared (name : Text) (hdeclared : declared = some name) (hnames : Names name mimeType)
  | path (name : Text) (hpath : detector.ofPath? (Source.path source) = some name)
      (hnames : Names name mimeType)
  | image (format : ImageFormat) (hformat : detector.imageFormat? bytes = some format)
      (htype : format.mimeType? = some mimeType)
  | audio (marks : List (Nat × Bytes)) (hmem : (mimeType, marks) ∈ audioMarks)
      (hshows : Shows bytes marks)

section Stages

variable {detector : Detector} {source : Text} {bytes : Bytes} {declared : Option Text}

theorem Recognises.mem_canonicalTypes {mimeType : Text}
    (h : Recognises detector source bytes declared mimeType) : mimeType ∈ canonicalTypes := by
  have hmarks : ∀ entry ∈ audioMarks, entry.1 ∈ canonicalTypes := by decide +kernel
  cases h with
  | declared name hdeclared hnames => exact mem_canonicalTypes_of_mem_accepted _ hnames
  | path name hpath hnames => exact mem_canonicalTypes_of_mem_accepted _ hnames
  | image format hformat htype =>
    cases format <;> simp only [ImageFormat.mimeType?, Option.some.injEq, reduceCtorEq] at htype <;>
      subst htype <;> decide
  | audio marks hmem hshows => exact hmarks _ hmem

/-- The type that the first stage to have one finds. -/
def Detector.found? (detector : Detector) (source : Text) (bytes : Bytes)
    (declared : Option Text) : Option Text :=
  (declared.bind canonical?).or
    (((detector.ofPath? (Source.path source)).bind canonical?).or (detector.sniff? bytes))

theorem recognises_of_found? {mimeType : Text}
    (h : detector.found? source bytes declared = some mimeType) :
    Recognises detector source bytes declared mimeType := by
  unfold Detector.found? Detector.sniff? at h
  simp only [Option.or_eq_some_iff, Option.bind_eq_some_iff] at h
  rcases h with ⟨name, hdeclared, hname⟩ | ⟨-, ⟨name, hpath, hname⟩ | ⟨-, hsniffed⟩⟩
  · exact .declared name hdeclared (names_of_canonical? hname)
  · exact .path name hpath (names_of_canonical? hname)
  · rcases hsniffed with ⟨format, hformat, htype⟩ | ⟨-, haudio⟩
    · exact .image format hformat htype
    · obtain ⟨marks, hmem, hshows⟩ := exists_shows_of_audioOfBytes? haudio
      exact .audio marks hmem hshows

theorem found?_ne_none_of_recognises {mimeType : Text}
    (h : Recognises detector source bytes declared mimeType) :
    detector.found? source bytes declared ≠ none := by
  intro hnone
  unfold Detector.found? Detector.sniff? at hnone
  simp only [Option.or_eq_none_iff] at hnone
  obtain ⟨hundeclared, hpathless, hshapeless, hsilent⟩ := hnone
  cases h with
  | declared name hdeclared hnames =>
    rw [hdeclared, Option.bind_some, canonical?_eq_none_iff] at hundeclared
    exact hundeclared ⟨mimeType, hnames⟩
  | path name hpath hnames =>
    rw [hpath, Option.bind_some, canonical?_eq_none_iff] at hpathless
    exact hpathless ⟨mimeType, hnames⟩
  | image format hformat htype =>
    rw [hformat, Option.bind_some, htype] at hshapeless
    contradiction
  | audio marks hmem hshows => exact (audioOfBytes?_eq_none_iff bytes).mp hsilent _ hmem hshows

/-- An input that no stage recognises is the only one without a type. -/
theorem found?_eq_none_iff :
    detector.found? source bytes declared = none ↔
      ¬∃ mimeType, Recognises detector source bytes declared mimeType := by
  constructor
  · rintro hnone ⟨mimeType, hrecognises⟩
    exact found?_ne_none_of_recognises hrecognises hnone
  · intro hnever
    refine Option.eq_none_iff_forall_ne_some.mpr fun mimeType hfound ↦ ?_
    exact hnever ⟨mimeType, recognises_of_found? hfound⟩

/-! ### Outcomes -/

theorem detect_eq (detector : Detector) (source : Text) (bytes : Bytes) (declared : Option Text) :
    detector.detect source bytes declared =
      match detector.found? source bytes declared with
      | some mimeType => .ok mimeType
      | none => .error (.unsupportedMedia source
          ((declared.or (detector.ofPath? (Source.path source))).getD "application/octet-stream")) :=
  rfl

theorem detect_eq_ok_iff {mimeType : Text} :
    detector.detect source bytes declared = .ok mimeType ↔
      detector.found? source bytes declared = some mimeType := by
  rw [detect_eq]
  cases detector.found? source bytes declared <;> simp

theorem exists_eq_unsupportedMedia {error : GuideError}
    (h : detector.detect source bytes declared = .error error) :
    ∃ reported, error = .unsupportedMedia source reported := by
  rw [detect_eq] at h
  split at h
  · contradiction
  · exact ⟨_, (Except.error.inj h).symm⟩

theorem exists_detect_eq_error_iff :
    (∃ error, detector.detect source bytes declared = .error error) ↔
      ¬∃ mimeType, Recognises detector source bytes declared mimeType := by
  rw [← found?_eq_none_iff, detect_eq]
  cases detector.found? source bytes declared <;> simp

/-- A declared name of an accepted type leaves nothing to the other stages. -/
theorem found?_of_names {name mimeType : Text} (h : Names name mimeType) :
    detector.found? source bytes (some name) = some mimeType := by
  rw [Detector.found?, Option.bind_some, (canonical?_eq_some_iff name mimeType).mpr h,
    Option.some_or]

/-- Any other declared name leaves all to them. -/
theorem found?_of_not_names {name : Text} (h : ¬∃ mimeType, Names name mimeType) :
    detector.found? source bytes (some name) = detector.found? source bytes none := by
  rw [Detector.found?, Option.bind_some, (canonical?_eq_none_iff name).mpr h, Option.none_or]
  rfl

end Stages

/-! ### Addresses -/

theorem isUrl_append {source : Text} (h : Source.isUrl source = true) (more : Text) :
    Source.isUrl (source ++ more) = true := by
  unfold Source.isUrl Text.startsWith at h ⊢
  simp only [Bool.or_eq_true, List.isPrefixOf_iff_prefix] at h ⊢
  exact h.imp (·.trans (List.prefix_append _ _)) (·.trans (List.prefix_append _ _))

/-- The path of an address ends where its query or its fragment begins. -/
theorem path_append {url suffix : Text} (hurl : Source.isUrl url = true)
    (hplain : ∀ c ∈ url, c ≠ '?' ∧ c ≠ '#')
    (hsuffix : ∀ c ∈ suffix.head?, c = '?' ∨ c = '#') : Source.path (url ++ suffix) = url := by
  rw [Source.path, if_pos (isUrl_append hurl suffix),
    List.takeWhile_append_of_pos fun c hc ↦ by simpa using hplain c hc]
  cases suffix with
  | nil => exact List.append_nil url
  | cons c rest =>
    have hmark : (c != '?' && c != '#') = false := by
      rcases hsuffix c rfl with rfl | rfl <;> rfl
    rw [List.takeWhile_cons_of_neg (by simp [hmark]), List.append_nil]

theorem found?_append (detector : Detector) {url suffix : Text} (bytes : Bytes)
    (declared : Option Text) (hurl : Source.isUrl url = true)
    (hplain : ∀ c ∈ url, c ≠ '?' ∧ c ≠ '#') (hsuffix : ∀ c ∈ suffix.head?, c = '?' ∨ c = '#') :
    detector.found? (url ++ suffix) bytes declared = detector.found? url bytes declared := by
  have hpath : Source.path (url ++ []) = url := path_append hurl hplain (by simp)
  rw [List.append_nil] at hpath
  rw [Detector.found?, path_append hurl hplain hsuffix, Detector.found?, hpath]

/-! ### What may be relied on -/

/-- What whoever asks for the type of an input may rely on. -/
structure Detector.IsSteady (detector : Detector) : Prop where
  /-- A type that is found is a canonical one that some stage recognises. -/
  sound : ∀ source bytes declared mimeType,
    detector.detect source bytes declared = .ok mimeType →
      mimeType ∈ canonicalTypes ∧ Recognises detector source bytes declared mimeType
  /-- A type that was found is found wherever it is declared. -/
  stable : ∀ source bytes declared mimeType,
    detector.detect source bytes declared = .ok mimeType →
      ∀ other content, detector.detect other content (some mimeType) = .ok mimeType
  /-- A declared name of an accepted type decides. -/
  declared : ∀ name mimeType, Names name mimeType →
    ∀ source bytes, detector.detect source bytes (some name) = .ok mimeType
  /-- Any other declared name makes no difference. -/
  undeclared : ∀ name, (¬∃ mimeType, Names name mimeType) → ∀ source bytes mimeType,
    detector.detect source bytes (some name) = .ok mimeType ↔
      detector.detect source bytes none = .ok mimeType
  /-- Nor does what follows the path of an address. -/
  suffix : ∀ url suffix, Source.isUrl url = true → (∀ c ∈ url, c ≠ '?' ∧ c ≠ '#') →
    (∀ c ∈ suffix.head?, c = '?' ∨ c = '#') → ∀ bytes declared mimeType,
    detector.detect (url ++ suffix) bytes declared = .ok mimeType ↔
      detector.detect url bytes declared = .ok mimeType
  /-- What is refused is named. -/
  refusal : ∀ source bytes declared error, detector.detect source bytes declared = .error error →
    ∃ reported, error = .unsupportedMedia source reported
  /-- It is what no stage recognises. -/
  refused_iff : ∀ source bytes declared,
    (∃ error, detector.detect source bytes declared = .error error) ↔
      ¬∃ mimeType, Recognises detector source bytes declared mimeType

/-- Every detector is steady, whatever it takes from extensions and from the first bytes of
images. -/
theorem Detector.isSteady (detector : Detector) : detector.IsSteady where
  sound := fun source bytes declared mimeType h ↦ by
    have hrecognises := recognises_of_found? (detect_eq_ok_iff.mp h)
    exact ⟨hrecognises.mem_canonicalTypes, hrecognises⟩
  stable := fun source bytes declared mimeType h other content ↦ by
    have hmem := (recognises_of_found? (detect_eq_ok_iff.mp h)).mem_canonicalTypes
    exact detect_eq_ok_iff.mpr (found?_of_names (names_of_mem_canonicalTypes mimeType hmem))
  declared := fun name mimeType hnames source bytes ↦
    detect_eq_ok_iff.mpr (found?_of_names hnames)
  undeclared := fun name hnames source bytes mimeType ↦ by
    rw [detect_eq_ok_iff, detect_eq_ok_iff, found?_of_not_names hnames]
  suffix := fun url suffix hurl hplain hsuffix bytes declared mimeType ↦ by
    rw [detect_eq_ok_iff, detect_eq_ok_iff,
      found?_append detector bytes declared hurl hplain hsuffix]
  refusal := fun source bytes declared error ↦ exists_eq_unsupportedMedia
  refused_iff := fun source bytes declared ↦ exists_detect_eq_error_iff

example : Detector.standard.detect "https://a.b/pizarra.WebP?id=1.docx" [] (some "text/html") =
    .ok "image/webp" := by
  rfl

end StudyGuide.MediaType
