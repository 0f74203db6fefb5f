import Mathlib.Data.List.Nodup
import Mathlib.Data.List.Perm.Subperm
import StudyGuide.Output
import StudyGuide.Proofs.Files.Targets

/-!
Writing a file so that it is written all or not at all. Directories may be made and a temporary
file may come and go without any file being touched (`SameFiles`), since the temporary file comes
where nothing stands (`node?_temporary`). Moving it is a plain write of what it holds, once it is
gone (`Beside.writeFile_of_rename`). So a write that stops leaves the files as they were, and one
that ends has put its content where the path leads and left all other files as they were
(`write_allOrNothing`). It does end wherever a plain write would (`exists_write_eq_ok`).
-/

set_option autoImplicit false
set_option relaxedAutoImplicit false

namespace StudyGuide

namespace FileStore

variable {store before after : FileStore} {path : Text} {content : Bytes} {place : Location}

/-- The files are the same, each at its location with its content, and no others; there may be
more directories. -/
structure SameFiles (before after : FileStore) : Prop extends Keeps before after where
  file?_eq : ∀ location, after.file? location = before.file? location

/-- The file that the path leads to has the content, at the location where the path led to a file
before, if it did; all other files are the same. -/
structure Replaced (before after : FileStore) (path : Text) (content : Bytes)
    (location : Location) : Prop extends Keeps before after where
  locate_eq : after.locate path = .ok location
  file?_eq : after.file? location = some content
  others_eq : ∀ other, other ≠ location → after.file? other = before.file? other
  earlier_eq : ∀ earlier, before.locate path = .ok earlier → before.file? earlier ≠ none →
    earlier = location

/-- A write that stops leaves the files as they were, and it does stop if a stage fails. -/
def IsAllOrNothing (before : FileStore) (obstacle : Option Obstacle) (path : Text)
    (content : Bytes) : Effect → Prop
  | (after, none) => obstacle = none ∧ ∃ location, Replaced before after path content location
  | (after, some _) => SameFiles before after

/-! ### The same files -/

namespace SameFiles

theorem refl (store : FileStore) : SameFiles store store := ⟨Keeps.refl store, fun _ ↦ rfl⟩

theorem trans {first second third : FileStore} (h : SameFiles first second)
    (hnext : SameFiles second third) : SameFiles first third :=
  ⟨h.toKeeps.trans hnext.toKeeps, fun location ↦
    (hnext.file?_eq location).trans (h.file?_eq location)⟩

theorem trans_replaced {middle : FileStore} {location : Location} (h : SameFiles before middle)
    (hnext : Replaced middle after path content location) :
    Replaced before after path content location where
  toKeeps := h.toKeeps.trans hnext.toKeeps
  locate_eq := hnext.locate_eq
  file?_eq := hnext.file?_eq
  others_eq := fun other hother ↦ (hnext.others_eq other hother).trans (h.file?_eq other)
  earlier_eq := fun earlier hlocate hfile ↦ by
    rw [← h.file?_eq] at hfile
    have hnode : middle.node? earlier ≠ none := fun hnone ↦ hfile (by rw [file?, hnone])
    exact hnext.earlier_eq earlier (h.toKeeps.locate_eq hlocate hnode) hfile

theorem trans_isAllOrNothing {middle : FileStore} {obstacle : Option Obstacle} {effect : Effect}
    (h : SameFiles before middle) (hnext : IsAllOrNothing middle obstacle path content effect) :
    IsAllOrNothing before obstacle path content effect := by
  obtain ⟨after, fault | fault⟩ := effect
  · obtain ⟨hobstacle, location, hreplaced⟩ := hnext
    exact ⟨hobstacle, location, h.trans_replaced hreplaced⟩
  · exact h.trans hnext

end SameFiles

/-! ### Making directories -/

theorem sameFiles_put_directory (hplace : place ≠ []) (h : store.node? place = none) :
    SameFiles store (store.put place .directory) where
  toKeeps := Keeps.put hplace fun _ ↦ rfl
  file?_eq := fun location ↦ by
    by_cases heq : place = location
    · subst heq
      rw [file?, file?, node?_put _ _ _ _ hplace, if_pos rfl, h]
    · exact file?_congr (by rw [node?_put _ _ _ _ hplace, if_neg heq])

theorem sameFiles_makeFrom (store : FileStore) (location : Location) (making : Bool)
    (names : List Text) : SameFiles store (store.makeFrom location making names).1 := by
  induction names generalizing store location making with
  | nil => exact .refl store
  | cons name rest ih =>
    rw [makeFrom]
    by_cases hstay : name = [] ∨ name = ['.']
    · rw [if_pos hstay]
      exact ih store location making
    by_cases hup : name = ['.', '.']
    · rw [if_neg hstay, if_pos hup]
      exact ih store location.dropLast making
    by_cases hlong : longestName < Text.byteLength name
    · rw [if_neg hstay, if_neg hup, if_pos hlong]
      exact .refl store
    rw [if_neg hstay, if_neg hup, if_neg hlong]
    dsimp only
    cases hnode : store.node? (location ++ [name]) with
    | none => exact (sameFiles_put_directory (by simp) hnode).trans (ih _ _ _)
    | some node =>
      cases node with
      | directory => exact ih store _ making
      | file content => exact .refl store

theorem sameFiles_makeParent (store : FileStore) (path : Text) :
    SameFiles store (store.makeParent path).1 := by
  rw [makeParent, makeDirectory]
  cases checkPath (FilePath.directory path) with
  | error fault => exact .refl store
  | ok _ => exact sameFiles_makeFrom _ _ _ _

theorem sameFiles_makeParentPartly (store : FileStore) (count : Nat) (path : Text) :
    SameFiles store (store.makeParentPartly count path) := by
  rw [makeParentPartly]
  cases checkPath (FilePath.directory path) with
  | error fault => exact .refl store
  | ok _ => exact sameFiles_makeFrom _ _ _ _

/-! ### The temporary file -/

theorem temporaryName_injective : Function.Injective temporaryName := by
  intro first second h
  have hdigits : Nat.toDigits 10 first = Nat.toDigits 10 second := List.append_cancel_left h
  calc
    first = Nat.ofDigitChars 10 (Nat.toDigits 10 first) 0 := Nat.ofDigitChars_ten_toDigits.symm
    _ = Nat.ofDigitChars 10 (Nat.toDigits 10 second) 0 := by rw [hdigits]
    _ = second := Nat.ofDigitChars_ten_toDigits

theorem mem_keys_of_node?_ne_none {location : Location} (hne : location ≠ [])
    (h : store.node? location ≠ none) : location ∈ store.nodes.keys := by
  rw [node?, if_neg hne] at h
  rw [Std.HashMap.mem_keys, Std.HashMap.mem_iff_isSome_getElem?]
  exact Option.isSome_iff_ne_none.mpr h

/-- There are more numbers to choose from than files. -/
theorem node?_temporary (store : FileStore) (directory : Location) :
    store.node? (store.temporary directory) = none := by
  unfold temporary
  dsimp only
  cases hfind : (List.range (store.nodes.size + 1)).find? fun number ↦
      (store.node? (directory ++ [temporaryName number])).isNone with
  | some number => simpa using List.find?_some hfind
  | none =>
    rw [List.find?_eq_none] at hfind
    let places := (List.range (store.nodes.size + 1)).map fun number ↦
      directory ++ [temporaryName number]
    have hnodup : places.Nodup := by
      refine List.nodup_range.map fun first second h ↦ temporaryName_injective ?_
      simpa using h
    have hsubset : places ⊆ store.nodes.keys := by
      intro place hplace
      obtain ⟨number, hnumber, rfl⟩ := List.mem_map.mp hplace
      exact mem_keys_of_node?_ne_none (by simp) (by simpa using hfind number hnumber)
    have hlength := (hnodup.subperm hsubset).length_le
    rw [Std.HashMap.length_keys, List.length_map, List.length_range] at hlength
    omega

/-- A file with the content stands at a place where nothing stood, and that is all. -/
structure Beside (before : FileStore) (place : Location) (content : Bytes) (after : FileStore) :
    Prop where
  ne_nil : place ≠ []
  free : before.node? place = none
  working_eq : after.working = before.working
  node?_eq : ∀ location, after.node? location =
    if place = location then some (.file content) else before.node? location

theorem beside_temporary (store : FileStore) (directory : Location) (content : Bytes) :
    Beside store (store.temporary directory) content
      (store.put (store.temporary directory) (.file content)) := by
  have hne : store.temporary directory ≠ [] := by simp [temporary]
  exact ⟨hne, node?_temporary store directory, rfl, fun location ↦ node?_put _ _ location _ hne⟩

namespace Beside

variable {earlier : Bytes}

theorem put (h : Beside before place earlier after) (content : Bytes) :
    Beside before place content (after.put place (.file content)) where
  ne_nil := h.ne_nil
  free := h.free
  working_eq := h.working_eq
  node?_eq := fun location ↦ by
    rw [node?_put _ _ _ _ h.ne_nil, h.node?_eq]
    split_ifs <;> rfl

theorem node?_erase (h : Beside before place content after) (location : Location) :
    (after.erase place).node? location = before.node? location := by
  rw [FileStore.node?_erase _ _ _ h.ne_nil, h.node?_eq]
  split_ifs with heq
  · rw [← heq, h.free]
  · rfl

/-- A file that comes or goes leaves the directories alone. -/
theorem isDirectoryAt_eq (h : Beside before place content after) (location : Location) :
    after.isDirectoryAt location = before.isDirectoryAt location := by
  rw [FileStore.isDirectoryAt, FileStore.isDirectoryAt, h.node?_eq]
  split_ifs with heq
  · rw [← heq, h.free]
    rfl
  · rfl

theorem isDirectoryAt_erase (h : Beside before place content after) (location : Location) :
    (after.erase place).isDirectoryAt location = after.isDirectoryAt location := by
  rw [h.isDirectoryAt_eq, FileStore.isDirectoryAt, h.node?_erase, FileStore.isDirectoryAt]

theorem keeps (h : Beside before place content after) : Keeps before after :=
  ⟨h.working_eq, fun location hlocation ↦ by rwa [h.isDirectoryAt_eq]⟩

theorem keeps_erase (h : Beside before place content after) : Keeps after (after.erase place) :=
  ⟨rfl, fun location hlocation ↦ by rwa [h.isDirectoryAt_erase]⟩

theorem sameFiles_erase (h : Beside before place content after) :
    SameFiles before (after.erase place) where
  toKeeps := h.keeps.trans h.keeps_erase
  file?_eq := fun location ↦ file?_congr (h.node?_erase location)

/-- To move the temporary file is to write its content, once it is gone. -/
theorem writeFile_of_rename {result : FileStore} (h : Beside before place content after)
    (hrename : after.rename place path = .ok result) :
    (after.erase place).writeFile path content = .ok result := by
  obtain ⟨directory, name, node, hleads, hplace, hfree, rfl⟩ := rename_eq_ok_iff.mp hrename
  rw [h.node?_eq, if_pos rfl] at hplace
  obtain rfl := Option.some.inj hplace
  rw [← h.isDirectoryAt_erase] at hfree
  exact writeFile_eq_ok_iff.mpr ⟨directory, name, hleads.of_keeps h.keeps_erase, hfree, rfl⟩

/-- It can be moved wherever a file could be written before it came. -/
theorem exists_rename_eq_ok {plain : FileStore} (h : Beside before place content after)
    (hwrite : before.writeFile path content = .ok plain) :
    ∃ result, after.rename place path = .ok result ∧ result.working = plain.working ∧
      ∀ location, result.node? location = plain.node? location := by
  obtain ⟨directory, name, hleads, hfree, rfl⟩ := writeFile_eq_ok_iff.mp hwrite
  have hplace : after.node? place = some (.file content) := by rw [h.node?_eq, if_pos rfl]
  rw [← h.isDirectoryAt_eq] at hfree
  refine ⟨_, rename_eq_ok_iff.mpr ⟨directory, name, .file content, hleads.of_keeps h.keeps, hplace,
    hfree, rfl⟩, h.working_eq, fun location ↦ ?_⟩
  rw [node?_put _ _ _ _ (by simp), node?_put _ _ _ _ (by simp), h.node?_erase]

end Beside

/-! ### Writing -/

/-- A plain write puts the content where the path leads. -/
theorem exists_replaced_of_writeFile (h : store.writeFile path content = .ok after) :
    ∃ location, Replaced store after path content location := by
  obtain ⟨directory, name, hleads, hfree, rfl⟩ := writeFile_eq_ok_iff.mp h
  have hne : directory ++ [name] ≠ [] := by simp
  have hkeeps : Keeps store (store.put (directory ++ [name]) (.file content)) :=
    Keeps.put hne fun hdirectory ↦ by
      rw [hdirectory] at hfree
      contradiction
  have hnode : (store.put (directory ++ [name]) (.file content)).node? (directory ++ [name]) =
      some (.file content) := by
    rw [node?_put _ _ _ _ hne, if_pos rfl]
  refine ⟨directory ++ [name], hkeeps, ?_, file?_of_node? hnode, fun other hother ↦ ?_,
    fun earlier hlocate _ ↦ ((hleads.locate_eq_ok_iff earlier).mp hlocate).1⟩
  · rw [(hleads.of_keeps hkeeps).locate_eq_ok_iff, hnode]
    simp
  · exact file?_congr (by rw [node?_put _ _ _ _ hne, if_neg hother.symm])

/-- What fails at no stage does not fail. -/
theorem eq_none_of_faultAt? {obstacle : Option Obstacle}
    (h : ∀ stage, faultAt? obstacle stage = none) : obstacle = none := by
  cases obstacle with
  | none => rfl
  | some obstacle =>
    have hfault : faultAt? (some obstacle) obstacle.stage = some obstacle.fault := if_pos rfl
    rw [h] at hfault
    contradiction

theorem isAllOrNothing_replaceFrom {obstacle : Option Obstacle}
    (hparent : faultAt? obstacle .makeParent = none)
    (hopen : faultAt? obstacle .openTemporary = none) (h : Beside before place [] store)
    (path : Text) (content : Bytes) :
    IsAllOrNothing before obstacle path content
      (store.replaceFrom obstacle place path content) := by
  have hfilled := h.put content
  unfold replaceFrom
  split
  · exact (h.put _).sameFiles_erase
  rename_i hfill
  dsimp only
  split
  · exact hfilled.sameFiles_erase
  rename_i hlate
  split
  · exact hfilled.sameFiles_erase
  · rename_i hrename
    obtain ⟨hsync, hmove⟩ := Option.or_eq_none_iff.mp hlate
    have hobstacle : obstacle = none := eq_none_of_faultAt? fun stage ↦ by
      cases stage <;> assumption
    obtain ⟨location, hreplaced⟩ :=
      exists_replaced_of_writeFile (hfilled.writeFile_of_rename hrename)
    exact ⟨hobstacle, location, hfilled.sameFiles_erase.trans_replaced hreplaced⟩

theorem isAllOrNothing_replaceFile (store : FileStore) (obstacle : Option Obstacle) (path : Text)
    (content : Bytes) :
    IsAllOrNothing store obstacle path content (store.replaceFile obstacle path content) := by
  unfold replaceFile
  split
  · exact sameFiles_makeParentPartly _ _ _
  rename_i hparent
  have hmade := sameFiles_makeParent store path
  split
  · rename_i hmake
    rwa [hmake] at hmade
  rename_i made hmake
  rw [hmake] at hmade
  split
  · exact hmade
  · exact hmade
  · rename_i directory hopen hlocate
    exact hmade.trans_isAllOrNothing (isAllOrNothing_replaceFrom hparent hopen
      (beside_temporary made directory []) _ _)

/-- Once its directory is made, a file that could be written in place is written, and all comes to
stand as if it had been written so. -/
theorem exists_replaceFile_eq {made plain : FileStore}
    (hmake : store.makeParent path = (made, none))
    (hwrite : made.writeFile path content = .ok plain) :
    ∃ after, store.replaceFile none path content = (after, none) ∧
      after.working = plain.working ∧ ∀ location, after.node? location = plain.node? location := by
  obtain ⟨directory, name, hleads, -, -⟩ := writeFile_eq_ok_iff.mp hwrite
  have hfilled := (beside_temporary made directory []).put content
  obtain ⟨after, hrename, hafter⟩ := hfilled.exists_rename_eq_ok hwrite
  refine ⟨after, ?_, hafter⟩
  unfold replaceFile
  simp only [faultAt?, hmake, hleads.locate_directory]
  rw [replaceFrom]
  simp only [faultAt?, hrename, Option.or_none]

end FileStore

namespace Output

open FileStore

/-- A guide is written all or not at all, whatever stands at its path and whatever stage the disk
makes fail. If the write fails, it says so with the path, and all files are as they were, with no
temporary one among them. If it does not, no stage failed, the path leads to a file with the
content, and all other files are as they were. -/
theorem write_allOrNothing (store : FileStore) (obstacle : Option Obstacle) (path : Text)
    (content : Bytes) :
    match write store obstacle path content with
    | (after, .error error) =>
      (∃ cause, error = .outputWriteFailed path cause) ∧ SameFiles store after
    | (after, .ok ()) =>
      obstacle = none ∧ ∃ location, Replaced store after path content location := by
  have hspec := isAllOrNothing_replaceFile store obstacle path content
  rw [write]
  rcases hreplace : store.replaceFile obstacle path content with ⟨after, fault | fault⟩
  · rw [hreplace] at hspec
    exact hspec
  · rw [hreplace] at hspec
    exact ⟨⟨fault.message, rfl⟩, hspec⟩

/-- With no stage failing, a guide is written wherever it could be written in place once the
directory is made. -/
theorem exists_write_eq_ok {store made plain : FileStore} {path : Text} {content : Bytes}
    (hmake : store.makeParent path = (made, none))
    (hwrite : made.writeFile path content = .ok plain) :
    ∃ after, write store none path content = (after, .ok ()) ∧
      ∀ location, after.node? location = plain.node? location := by
  obtain ⟨after, hreplace, -, hnode⟩ := exists_replaceFile_eq hmake hwrite
  exact ⟨after, by rw [write, hreplace], hnode⟩

end Output

end StudyGuide
