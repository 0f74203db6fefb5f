import Mathlib.Data.List.DropRight
import StudyGuide.Proofs.Files.Locations
import StudyGuide.Proofs.Files.Paths

/-!
Where files can be put. A path leads to a name in a directory if its last name is one that a file
can have, and the names before it lead to a directory that is there (`LeadsTo`). These are the
paths that have a target with a name (`leadsTo_iff`), so a file can be written or moved to the
location (`writeFile_eq_ok_iff`, `rename_eq_ok_iff`), and what is there is found under the path
(`LeadsTo.locate_eq_ok_iff`). The directory is the one that the path above it names
(`LeadsTo.locate_directory`).
-/

set_option autoImplicit false
set_option relaxedAutoImplicit false

namespace StudyGuide.FileStore

open Text

variable {store before after : FileStore} {path name : Text} {directory origin target : Location}

/-- The path ends in the name, after names that lead to the directory. -/
structure LeadsTo (store : FileStore) (path : Text) (directory : Location) (name : Text) :
    Prop where
  checkPath_eq : checkPath path = .ok ()
  exists_above : ∃ above, splitAt '/' path = above ++ [name] ∧
    store.follow (store.origin path) above = .ok directory
  isDirectoryAt : store.isDirectoryAt directory = true
  ne_nil : name ≠ []
  ne_dot : name ≠ ['.']
  ne_dots : name ≠ ['.', '.']
  length_le : byteLength name ≤ longestName

/-- The names of a path but for the separators that it ends in. -/
def trimmedNames (path : Text) : List Text := (splitAt '/' path).rdropWhile (· == [])

theorem target_eq_ok_iff (store : FileStore) (path : Text) (target : Target) :
    store.target path = .ok target ↔
      checkPath path = .ok () ∧
        store.follow (store.origin path) (trimmedNames path).dropLast = .ok target.directory ∧
        store.isDirectoryAt target.directory = true ∧
        target.name =
          (let last := (trimmedNames path).getLastD ['.']
          if last = ['.'] ∨ last = ['.', '.'] then none else some last) ∧
        target.closed = decide ((trimmedNames path).length < (splitAt '/' path).length) := by
  unfold FileStore.target
  simp only [bind_eq_ok_iff, refuse_eq_ok_iff]
  constructor
  · rintro ⟨_, hcheck, directory, hfollow, hdirectory, htarget⟩
    obtain rfl := Except.ok.inj htarget
    exact ⟨hcheck, hfollow, by simpa using hdirectory, rfl, rfl⟩
  · obtain ⟨directory, name, closed⟩ := target
    rintro ⟨hcheck, hfollow, hdirectory, rfl, rfl⟩
    exact ⟨(), hcheck, directory, hfollow, by simpa using hdirectory, rfl⟩

/-- Nothing is dropped from a path that does not end in a separator. -/
theorem trimmedNames_eq_iff {above : List Text} (h : splitAt '/' path = above ++ [name]) :
    trimmedNames path = splitAt '/' path ↔ name ≠ [] := by
  simp [trimmedNames, h]

theorem checkName_eq_ok_iff (directory : Location) (name : Text) (closed : Bool) :
    Target.checkName ⟨directory, some name, closed⟩ = .ok () ↔ byteLength name ≤ longestName := by
  rw [Target.checkName, Option.any_some]
  split_ifs with hlong
  · simpa using hlong
  · simpa using hlong

theorem leadsTo_iff (store : FileStore) (path : Text) (directory : Location) (name : Text) :
    LeadsTo store path directory name ↔
      store.target path = .ok ⟨directory, some name, false⟩ ∧
        Target.checkName ⟨directory, some name, false⟩ = .ok () := by
  rw [target_eq_ok_iff, checkName_eq_ok_iff]
  constructor
  · intro h
    obtain ⟨above, hnames, hfollow⟩ := h.exists_above
    rw [(trimmedNames_eq_iff hnames).mpr h.ne_nil, hnames]
    simp [h.checkPath_eq, hfollow, h.isDirectoryAt, h.ne_dot, h.ne_dots, h.length_le]
  · rintro ⟨⟨hcheck, hfollow, hdirectory, hname, hclosed⟩, hlength⟩
    have htrimmed : trimmedNames path = splitAt '/' path := by
      refine (List.rdropWhile_prefix _ _).eq_of_length_le ?_
      exact Nat.not_lt.mp (of_decide_eq_false hclosed.symm)
    obtain ⟨above, last, hnames⟩ :=
      (List.eq_nil_or_concat' (splitAt '/' path)).resolve_left (splitAt_ne_nil '/' path)
    rw [htrimmed, hnames, List.dropLast_concat] at hfollow
    rw [htrimmed, hnames, List.getLastD_concat] at hname
    dsimp only at hname
    split_ifs at hname with hdots
    obtain rfl := Option.some.inj hname
    obtain ⟨hdot, hdots⟩ := not_or.mp hdots
    exact ⟨hcheck, ⟨above, hnames, hfollow⟩, hdirectory, (trimmedNames_eq_iff hnames).mp htrimmed,
      hdot, hdots, hlength⟩

/-! ### Putting files there -/

theorem no_zero_of_checkPath (h : checkPath path = .ok ()) : '\x00' ∉ path := by
  unfold checkPath at h
  split_ifs at h with hnil hzero hlong
  exact hzero

/-- A file can be moved to a name in a directory, unless a directory stands there. -/
theorem rename_eq_ok_iff {result : FileStore} {source : Location} :
    store.rename source path = .ok result ↔
      ∃ directory name node, LeadsTo store path directory name ∧
        store.node? source = some node ∧ store.isDirectoryAt (directory ++ [name]) = false ∧
        result = (store.erase source).put (directory ++ [name]) node := by
  unfold rename
  simp only [bind_eq_ok_iff, refuse_eq_ok_iff]
  constructor
  · rintro ⟨-, ⟨directory, last, closed⟩, htarget, hname, _, hcheck, hclosed, hrenamed⟩
    obtain ⟨name, rfl⟩ := Option.ne_none_iff_exists'.mp hname
    obtain rfl : closed = false := by simpa using hclosed
    have hleads := (leadsTo_iff _ _ _ _).mpr ⟨htarget, hcheck⟩
    split at hrenamed
    · contradiction
    · contradiction
    · rename_i node hsource hfree
      exact ⟨directory, name, node, hleads, hsource, (isDirectoryAt_eq_false_iff _ _).mpr hfree,
        (Except.ok.inj hrenamed).symm⟩
  · rintro ⟨directory, name, node, hleads, hsource, hfree, rfl⟩
    obtain ⟨htarget, hcheck⟩ := (leadsTo_iff _ _ _ _).mp hleads
    refine ⟨no_zero_of_checkPath hleads.checkPath_eq, _, htarget, Option.some_ne_none _, (), hcheck,
      Bool.false_ne_true, ?_⟩
    rw [hsource]
    split
    · contradiction
    · rename_i hdirectory _
      exact absurd hdirectory ((isDirectoryAt_eq_false_iff _ _).mp hfree)
    · rename_i hnode _
      rw [Option.some.inj hnode]
      rfl

/-- And so can a file be written. -/
theorem writeFile_eq_ok_iff {result : FileStore} {content : Bytes} :
    store.writeFile path content = .ok result ↔
      ∃ directory name, LeadsTo store path directory name ∧
        store.isDirectoryAt (directory ++ [name]) = false ∧
        result = store.put (directory ++ [name]) (.file content) := by
  unfold writeFile
  simp only [bind_eq_ok_iff, refuse_eq_ok_iff]
  constructor
  · rintro ⟨⟨directory, last, closed⟩, htarget, hname, _, hcheck, hwritten⟩
    obtain ⟨hname, hclosed⟩ := not_or.mp hname
    obtain ⟨name, rfl⟩ := Option.ne_none_iff_exists'.mp hname
    obtain rfl : closed = false := by simpa using hclosed
    have hleads := (leadsTo_iff _ _ _ _).mpr ⟨htarget, hcheck⟩
    split at hwritten
    · contradiction
    · rename_i hfree
      exact ⟨directory, name, hleads, (isDirectoryAt_eq_false_iff _ _).mpr hfree,
        (Except.ok.inj hwritten).symm⟩
  · rintro ⟨directory, name, hleads, hfree, rfl⟩
    obtain ⟨htarget, hcheck⟩ := (leadsTo_iff _ _ _ _).mp hleads
    refine ⟨_, htarget, not_or.mpr ⟨Option.some_ne_none _, Bool.false_ne_true⟩, (), hcheck, ?_⟩
    split
    · rename_i hdirectory
      exact absurd hdirectory ((isDirectoryAt_eq_false_iff _ _).mp hfree)
    · rfl

/-! ### What is there -/

theorem LeadsTo.follow_eq {last : Text} (h : LeadsTo store path directory last)
    {above : List Text} (hnames : splitAt '/' path = above ++ [name]) :
    last = name ∧ store.follow (store.origin path) above = .ok directory := by
  obtain ⟨front, hfront, hfollow⟩ := h.exists_above
  obtain ⟨rfl, hlast⟩ := List.append_inj' (hnames.symm.trans hfront) rfl
  exact ⟨(List.singleton_inj.mp hlast).symm, hfollow⟩

theorem LeadsTo.of_keeps (h : LeadsTo before path directory name) (hkeeps : Keeps before after) :
    LeadsTo after path directory name := by
  obtain ⟨above, hnames, hfollow⟩ := h.exists_above
  have hafter : after.follow (after.origin path) above = .ok directory := by
    rw [hkeeps.origin_eq]
    exact hkeeps.follow_of_isDirectoryAt hfollow h.isDirectoryAt
  exact { h with
    exists_above := ⟨above, hnames, hafter⟩
    isDirectoryAt := hkeeps.isDirectoryAt directory h.isDirectoryAt }

theorem LeadsTo.locate_eq_ok_iff (h : LeadsTo store path directory name) (location : Location) :
    store.locate path = .ok location ↔
      location = directory ++ [name] ∧ store.node? location ≠ none := by
  obtain ⟨above, hnames, hfollow⟩ := h.exists_above
  have hstep : store.follow directory [name] = .ok location ↔
      store.node? (directory ++ [name]) ≠ none ∧ directory ++ [name] = location := by
    rw [follow_cons_eq_ok_iff]
    simp [h.isDirectoryAt, h.ne_nil, h.ne_dot, h.ne_dots, h.length_le, follow]
  rw [FileStore.locate_eq_ok_iff, hnames, follow_append, hfollow]
  refine (and_iff_right h.checkPath_eq).trans (hstep.trans ?_)
  constructor
  · rintro ⟨hnode, rfl⟩
    exact ⟨rfl, hnode⟩
  · rintro ⟨rfl, hnode⟩
    exact ⟨hnode, rfl⟩

/-! ### The directory above -/

/-- Pieces that are no steps lead nowhere. -/
theorem target_eq_origin {names : List Text}
    (hnames : ∀ piece ∈ names, FilePath.namesNothing piece = true)
    (h : store.follow origin names = .ok target) : target = origin := by
  induction names with
  | nil => exact (Except.ok.inj h).symm
  | cons piece rest ih =>
    have hpiece : piece = [] ∨ piece = ['.'] := by
      simpa [FilePath.namesNothing] using hnames piece List.mem_cons_self
    have hdots : piece ≠ ['.', '.'] := by rcases hpiece with rfl | rfl <;> decide
    obtain ⟨-, hstay | hup | hdown⟩ := (follow_cons_eq_ok_iff _ _ _ _ _).mp h
    · exact ih (fun other hother ↦ hnames other (List.mem_cons_of_mem piece hother)) hstay.2
    · exact absurd hup.1 hdots
    · exact absurd hpiece hdown.1

theorem checkPath_of_append {first second : Text} (h : checkPath (first ++ second) = .ok ())
    (hne : first ≠ []) : checkPath first = .ok () := by
  have hlength : byteLength first ≤ byteLength (first ++ second) := by
    rw [byteLength, byteLength, ← List.sum_eq_foldr, ← List.sum_eq_foldr, List.map_append,
      List.sum_append]
    exact Nat.le_add_right _ _
  unfold checkPath at h ⊢
  split_ifs at h with hnil hzero hlong
  rw [if_neg hne, if_neg fun hmem ↦ hzero (List.mem_append_left second hmem), if_neg]
  omega

theorem follow_rdropWhile {names : List Text} (h : store.follow origin names = .ok target) :
    store.follow origin (names.rdropWhile FilePath.namesNothing) = .ok target := by
  rw [← List.rdropWhile_append_rtakeWhile (p := FilePath.namesNothing) (l := names),
    follow_append, bind_eq_ok_iff] at h
  obtain ⟨middle, hmiddle, hrest⟩ := h
  rwa [target_eq_origin (fun piece hpiece ↦ List.mem_rtakeWhile_imp hpiece) hrest]

/-- The directory of a path is where the names before the last one lead. -/
theorem LeadsTo.locate_directory (h : LeadsTo store path directory name) :
    store.locate (FilePath.directory path) = .ok directory := by
  obtain ⟨above, hnames, hfollow⟩ := h.exists_above
  have hname : FilePath.namesNothing name = false := by
    simp [FilePath.namesNothing, h.ne_nil, h.ne_dot]
  have hkept := follow_rdropWhile hfollow
  rw [FilePath.directory_eq hnames hname, FileStore.locate_eq_ok_iff]
  by_cases hnone : above.rdropWhile FilePath.namesNothing = []
  · rw [hnone] at hkept
    rw [if_neg (not_not.mpr hnone)]
    obtain rfl := Except.ok.inj hkept
    split_ifs with habsolute
    · have horigin : store.origin path = [] := if_pos habsolute
      rw [horigin]
      exact ⟨rfl, rfl⟩
    · have horigin : store.origin path = store.working := if_neg habsolute
      have hworking := h.isDirectoryAt
      rw [horigin] at hworking ⊢
      exact ⟨rfl, (follow_cons_eq_ok_iff _ _ _ _ _).mpr ⟨hworking, .inl ⟨.inr rfl, rfl⟩⟩⟩
  · obtain ⟨rest, hrest⟩ := List.rdropWhile_prefix FilePath.namesNothing (l := above)
    rw [← hrest, List.append_assoc] at hnames
    obtain ⟨front, back, rfl, hfront⟩ := exists_cut_of_splitAt hnames hnone (by simp)
    have hne : front ≠ [] := by
      rintro rfl
      have hlast := List.rdropWhile_last_not FilePath.namesNothing above hnone
      simp only [← hfront] at hlast
      exact hlast rfl
    have horigin : store.origin front = store.origin (front ++ '/' :: back) := by
      rw [FileStore.origin, FileStore.origin, FilePath.isAbsolute_append hne]
    rw [if_pos hnone, ← hfront, joinWith_splitAt, hfront, horigin]
    exact ⟨checkPath_of_append h.checkPath_eq hne, hkept⟩

end StudyGuide.FileStore
