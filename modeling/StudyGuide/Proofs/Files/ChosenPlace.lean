import StudyGuide.FileName
import StudyGuide.Output
import StudyGuide.Proofs.Files.Paths
import StudyGuide.Proofs.Files.Targets
import StudyGuide.Proofs.Text.Words

/-!
Where a guide comes to stand. Whatever the title is, the file name that is made from it is one
name below the place that was asked for: its stem holds no blank and no separator and is not made
of dots (`isStem_stem`), and what such a stem is made into is itself (`IsStem.stem_eq`). A name
that is joined to a path is put into the directory that the path leads to (`isPlacedIn_join`).
-/

set_option autoImplicit false
set_option relaxedAutoImplicit false

namespace StudyGuide

namespace FileName

open Text

/-- No blank, no separator of paths, and something other than dots. -/
structure IsStem (stem : Text) : Prop where
  no_blank : ∀ c ∈ stem, isBlank c = false
  no_separator : ∀ c ∈ stem, c ≠ '/' ∧ c ≠ '\\'
  exists_ne_dot : ∃ c ∈ stem, c ≠ '.'

theorem isSeparator_eq_false_iff (c : Char) : isSeparator c = false ↔ c ≠ '/' ∧ c ≠ '\\' := by
  simp [isSeparator]

/-- What stands for a separator is none. -/
theorem mem_withoutSeparators {text : Text} {c : Char} (h : c ∈ withoutSeparators text) :
    isSeparator c = false ∧ (c = '_' ∨ c ∈ text) := by
  obtain ⟨d, hd, rfl⟩ := List.mem_map.mp h
  split_ifs with hseparator
  · exact ⟨rfl, .inl rfl⟩
  · exact ⟨by simpa using hseparator, .inr hd⟩

theorem withoutSeparators_eq_self {text : Text} (h : ∀ c ∈ text, isSeparator c = false) :
    withoutSeparators text = text := by
  refine (List.map_congr_left fun c hc ↦ ?_).trans (List.map_id text)
  rw [if_neg (by simp [h c hc])]
  rfl

theorem isDots_eq_false_iff (text : Text) : isDots text = false ↔ ∃ c ∈ text, c ≠ '.' := by
  simp [isDots]

theorem plain_of_all {text : Text} (h : text.all (fun c ↦ !isSeparator c && !isBlank c) = true)
    {c : Char} (hc : c ∈ text) : (c ≠ '/' ∧ c ≠ '\\') ∧ isBlank c = false := by
  have hplain := List.all_eq_true.mp h c hc
  rw [Bool.and_eq_true, Bool.not_eq_true', Bool.not_eq_true'] at hplain
  exact ⟨(isSeparator_eq_false_iff c).mp hplain.1, hplain.2⟩

/-- The words of a title, joined, hold no blank. -/
theorem isBlank_of_mem_joined {title : Text} {c : Char} (h : c ∈ joinWith ['_'] (words title)) :
    isBlank c = false := by
  rcases mem_of_mem_joinWith h with hmark | ⟨word, hword, hc⟩
  · obtain rfl := List.mem_singleton.mp hmark
    decide
  · exact (isWord_of_mem_words hword).no_blank c hc

theorem isStem_guia : IsStem "guia".toList where
  no_blank := fun c hc ↦ (plain_of_all (by decide) hc).2
  no_separator := fun c hc ↦ (plain_of_all (by decide) hc).1
  exists_ne_dot := ⟨'g', List.mem_cons_self, by decide⟩

theorem isStem_stem (title : Text) : IsStem (stem title) := by
  rw [stem]
  split_ifs with hdots
  · exact isStem_guia
  · refine ⟨fun c hc ↦ ?_, fun c hc ↦ ?_, (isDots_eq_false_iff _).mp (by simpa using hdots)⟩
    · rcases (mem_withoutSeparators hc).2 with rfl | hjoined
      · decide
      · exact isBlank_of_mem_joined hjoined
    · exact (isSeparator_eq_false_iff c).mp (mem_withoutSeparators hc).1

namespace IsStem

variable {text : Text}

theorem ne_nil (h : IsStem text) : text ≠ [] := by
  obtain ⟨c, hc, -⟩ := h.exists_ne_dot
  exact List.ne_nil_of_mem hc

/-- A stem is one word, without anything to replace. -/
theorem stem_eq (h : IsStem text) : stem text = text := by
  have hword : IsWord text := ⟨h.ne_nil, h.no_blank⟩
  have hkept : withoutSeparators text = text := withoutSeparators_eq_self fun c hc ↦
    (isSeparator_eq_false_iff c).mpr (h.no_separator c hc)
  rw [stem, hword.words_eq, joinWith, hkept, (isDots_eq_false_iff text).mpr h.exists_ne_dot]
  rfl

end IsStem

theorem mem_ofTitle {title : Text} {c : Char} (h : c ∈ ofTitle title) :
    (c ≠ '/' ∧ c ≠ '\\') ∧ isBlank c = false := by
  rcases List.mem_append.mp h with hstem | hextension
  · exact ⟨(isStem_stem title).no_separator c hstem, (isStem_stem title).no_blank c hstem⟩
  · exact plain_of_all (by decide) hextension

/-- The file name is one step down from wherever it is joined to. -/
theorem isName_ofTitle (title : Text) : FilePath.IsName (ofTitle title) := by
  have hend : 'f' ∈ ofTitle title := List.mem_append_right _ (by decide)
  refine ⟨List.ne_nil_of_mem hend, fun h ↦ ?_, fun h ↦ ?_, fun h ↦ (mem_ofTitle h).1.1 rfl⟩
  · rw [h] at hend
    contradiction
  · rw [h] at hend
    contradiction

end FileName

namespace Output

open FilePath FileStore
open Text (splitAt)

/-- The last name ends in a dot and `pdf`, in any letter case, after something else. -/
def HasPdfExtension (path : Text) : Prop :=
  ∃ before extension, fileName? path = some (before ++ '.' :: extension) ∧ before ≠ [] ∧
    extension.map Char.toLower = "pdf".toList

theorem dot_not_mem_of_map_toLower_eq {extension : Text}
    (h : extension.map Char.toLower = "pdf".toList) : '.' ∉ extension := by
  intro hmem
  have hlower : '.' ∈ extension.map Char.toLower := List.mem_map.mpr ⟨'.', hmem, by decide⟩
  rw [h] at hlower
  contradiction

theorem isPdfPath_iff (path : Text) : isPdfPath path = true ↔ HasPdfExtension path := by
  rw [isPdfPath, beq_iff_eq, Option.map_eq_some_iff]
  constructor
  · rintro ⟨extension, hextension, hpdf⟩
    obtain ⟨before, hname, hne, -⟩ := (extension?_eq_some_iff _ _).mp hextension
    exact ⟨before, extension, hname, hne, hpdf⟩
  · rintro ⟨before, extension, hname, hne, hpdf⟩
    exact ⟨extension, (extension?_eq_some_iff _ _).mpr
      ⟨before, hname, hne, dot_not_mem_of_map_toLower_eq hpdf⟩, hpdf⟩

/-- The path is a child of what was asked for, and a file that is put at the path comes to stand
in the directory that this leads to. -/
structure IsPlacedIn (output name path : Text) : Prop where
  isChild : IsChild output name path
  follow_eq : ∀ store directory last, LeadsTo store path directory last →
    last = name ∧ store.follow (store.origin output) (splitAt '/' output) = .ok directory

/-- A separator at the end of a path to a directory leads nowhere else. -/
theorem follow_append_nil {store : FileStore} {origin directory : Location} {names : List Text}
    (h : store.follow origin names = .ok directory) (hdirectory : store.isDirectoryAt directory) :
    store.follow origin (names ++ [[]]) = .ok directory := by
  rw [follow_append, h]
  exact (follow_cons_eq_ok_iff _ _ _ _ _).mpr ⟨hdirectory, .inl ⟨.inl rfl, rfl⟩⟩

theorem isPlacedIn_join (output : Text) {name : Text} (hname : IsName name) :
    IsPlacedIn output name (join output name) := by
  have hchild := isChild_join output hname
  refine ⟨hchild, fun store directory last h ↦ ?_⟩
  have horigin : store.origin (join output name) = store.origin output := by
    rw [origin, origin, hchild.isAbsolute_eq]
  rw [← horigin]
  obtain ⟨above, hjoin, hopen | hclosed⟩ := splitAt_join output hname
  · rw [hopen]
    exact h.follow_eq hjoin
  · obtain ⟨hlast, hfollow⟩ := h.follow_eq hjoin
    rw [hclosed]
    exact ⟨hlast, follow_append_nil hfollow h.isDirectoryAt⟩

/-- The path is what was asked for, or it is placed in it. -/
theorem pathFor_cases (isDirectory : Bool) (output : Text) {name : Text} (hname : IsName name) :
    let path := pathFor isDirectory output name
    path = output ∧ isDirectory = false ∧ HasPdfExtension output ∨
      IsPlacedIn output name path ∧ (isDirectory = true ∨ ¬HasPdfExtension output) := by
  rw [pathFor, ← isPdfPath_iff]
  cases isDirectory with
  | true => exact .inr ⟨isPlacedIn_join output hname, .inl rfl⟩
  | false =>
    cases hpdf : isPdfPath output with
    | true => exact .inl ⟨rfl, rfl, rfl⟩
    | false => exact .inr ⟨isPlacedIn_join output hname, .inr Bool.false_ne_true⟩

theorem hasPdfExtension_of_isChild {output title path : Text}
    (h : IsChild output (FileName.ofTitle title) path) : HasPdfExtension path :=
  ⟨FileName.stem title, "pdf".toList, h.fileName?_eq, (FileName.isStem_stem title).ne_nil, rfl⟩

/-- No title leads a guide out of the place that was asked for. The file name of the guide holds no
separator and no blank; what stands before its extension is not made of dots, and gives the same
name again. The path of the guide has the extension, and it is the one that was asked for, if this
has the extension too and no directory stands there, or else a child of that one. -/
theorem place_of_title (title : Text) :
    (∀ c ∈ FileName.ofTitle title, (c ≠ '/' ∧ c ≠ '\\') ∧ Text.isBlank c = false) ∧
    (∃ stem, FileName.ofTitle title = stem ++ ".pdf".toList ∧ FileName.IsStem stem ∧
      FileName.ofTitle stem = FileName.ofTitle title) ∧
    ∀ isDirectory output,
      let path := pathFor isDirectory output (FileName.ofTitle title)
      HasPdfExtension path ∧
        (path = output ∧ isDirectory = false ∧ HasPdfExtension output ∨
          IsPlacedIn output (FileName.ofTitle title) path ∧
            (isDirectory = true ∨ ¬HasPdfExtension output)) := by
  have hstem := FileName.isStem_stem title
  refine ⟨fun c ↦ FileName.mem_ofTitle, ⟨FileName.stem title, rfl, hstem, ?_⟩,
    fun isDirectory output ↦ ?_⟩
  · rw [FileName.ofTitle, hstem.stem_eq, FileName.ofTitle]
  · rcases pathFor_cases isDirectory output (FileName.isName_ofTitle title) with
      hasked | hplaced
    · refine ⟨?_, .inl hasked⟩
      rw [hasked.1]
      exact hasked.2.2
    · exact ⟨hasPdfExtension_of_isChild hplaced.1.isChild, .inr hplaced⟩

end Output

end StudyGuide
