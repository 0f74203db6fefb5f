import Mathlib.Data.List.DropRight
import StudyGuide.Media.Source
import StudyGuide.Proofs.Text.Lines

/-!
Paths by their names. A name that is joined to a directory comes after the pieces of the directory
(`splitAt_join`), so it is a child of it. The directory of a path is what stands before its last
name (`directory_eq`), and the extension is the part of that name after its last dot, where
something stands before the dot (`extension?_eq_some_iff`).
-/

set_option autoImplicit false
set_option relaxedAutoImplicit false

namespace StudyGuide.FilePath

open Text

/-- One step down: a name that is neither empty nor a dot nor two, and holds no separator. -/
structure IsName (name : Text) : Prop where
  ne_nil : name ≠ []
  ne_dot : name ≠ ['.']
  ne_dots : name ≠ ['.', '.']
  no_separator : '/' ∉ name

/-- The path leads where the directory leads, and from there to the name in it. -/
structure IsChild (directory name path : Text) : Prop where
  isName : IsName name
  names_eq : names path = names directory ++ [name]
  isAbsolute_eq : isAbsolute path = isAbsolute directory

/-! ### Names -/

/-- The names among the pieces of a path. -/
def namesOf : List Text → List Text
  | [] => []
  | first :: rest =>
    (if first = [] then [] else [first]) ++ rest.filter fun name ↦ name != [] && name != ['.']

theorem names_eq (path : Text) : names path = namesOf (splitAt '/' path) := by
  unfold names
  cases splitAt '/' path with
  | nil => rfl
  | cons first rest =>
    dsimp only
    rw [namesOf]
    split_ifs
    · exact (List.nil_append _).symm
    · rfl

theorem namesOf_append_name (pieces : List Text) {name : Text} (hname : IsName name) :
    namesOf (pieces ++ [name]) = namesOf pieces ++ [name] := by
  cases pieces with
  | nil => simp [namesOf, hname.ne_nil]
  | cons first rest => simp [namesOf, hname.ne_nil, hname.ne_dot]

/-- A separator at the end of a path adds no name. -/
theorem namesOf_append_nil (pieces : List Text) : namesOf (pieces ++ [[]]) = namesOf pieces := by
  cases pieces with
  | nil => rfl
  | cons first rest => simp [namesOf]

/-! ### Joining -/

variable {name : Text}

theorem IsName.not_isAbsolute (hname : IsName name) : isAbsolute name = false := by
  obtain ⟨c, rest, rfl⟩ := List.exists_cons_of_ne_nil hname.ne_nil
  have hc : '/' ≠ c := fun h ↦ hname.no_separator (h ▸ List.mem_cons_self)
  simp [isAbsolute, startsWith, List.isPrefixOf, hc]

theorem isAbsolute_append {path : Text} (hne : path ≠ []) (more : Text) :
    isAbsolute (path ++ more) = isAbsolute path := by
  obtain ⟨c, rest, rfl⟩ := List.exists_cons_of_ne_nil hne
  simp [isAbsolute, startsWith, List.isPrefixOf]

theorem isAbsolute_join (directory : Text) (hname : IsName name) :
    isAbsolute (join directory name) = isAbsolute directory := by
  rw [join, hname.not_isAbsolute]
  by_cases hne : directory = []
  · rw [hne]
    exact hname.not_isAbsolute
  · simp only [Bool.false_eq_true, ↓reduceIte]
    split
    · exact isAbsolute_append hne name
    · exact isAbsolute_append hne name
    · exact isAbsolute_append hne ('/' :: name)

/-- The name is the last piece, after those of the directory but for what is behind a separator at
its end. -/
theorem splitAt_join (directory : Text) (hname : IsName name) :
    ∃ above, splitAt '/' (join directory name) = above ++ [name] ∧
      (splitAt '/' directory = above ∨ splitAt '/' directory = above ++ [[]]) := by
  have hself : splitAt '/' name = [name] := splitAt_of_not_mem hname.no_separator
  rw [join, hname.not_isAbsolute]
  simp only [Bool.false_eq_true, ↓reduceIte]
  split
  · rename_i hnone
    rw [List.getLast?_eq_none_iff.mp hnone]
    exact ⟨[], hself, .inr rfl⟩
  · rename_i hclosed
    obtain ⟨front, rfl⟩ := List.getLast?_eq_some_iff.mp hclosed
    refine ⟨splitAt '/' front, ?_, .inr (splitAt_append_mark '/' front [])⟩
    rw [List.append_assoc, List.singleton_append, splitAt_append_mark, hself]
  · exact ⟨splitAt '/' directory, by rw [splitAt_append_mark, hself], .inl rfl⟩

/-- What a name is joined to is the directory that the name stands in. -/
theorem isChild_join (directory : Text) (hname : IsName name) :
    IsChild directory name (join directory name) := by
  refine ⟨hname, ?_, isAbsolute_join directory hname⟩
  obtain ⟨above, hjoin, hopen | hclosed⟩ := splitAt_join directory hname
  · rw [names_eq, names_eq, hjoin, hopen, namesOf_append_name above hname]
  · rw [names_eq, names_eq, hjoin, hclosed, namesOf_append_name above hname, namesOf_append_nil]

theorem IsChild.fileName?_eq {directory path : Text} (h : IsChild directory name path) :
    fileName? path = some name := by
  rw [fileName?, h.names_eq, List.getLast?_concat]
  simp [h.isName.ne_dot, h.isName.ne_dots]

/-! ### The directory above -/

theorem directory_eq {path : Text} {above : List Text}
    (h : splitAt '/' path = above ++ [name]) (hname : namesNothing name = false) :
    directory path =
      if above.rdropWhile namesNothing ≠ [] then joinWith ['/'] (above.rdropWhile namesNothing)
      else if isAbsolute path then ['/']
      else ['.'] := by
  have hpieces : (splitAt '/' path).reverse.dropWhile namesNothing = name :: above.reverse := by
    rw [h, List.reverse_concat, List.dropWhile_cons_of_neg]
    simp [hname]
  unfold directory
  rw [hpieces]
  simp [List.rdropWhile]

/-! ### Extensions -/

theorem extension?_of_dot {path before extension : Text}
    (hname : fileName? path = some (before ++ '.' :: extension)) (hlast : '.' ∉ extension) :
    extension? path = if before = [] then none else some extension := by
  have hafter : (before ++ '.' :: extension).reverse.takeWhile (· != '.') = extension.reverse := by
    rw [List.reverse_append, List.reverse_cons, List.append_assoc, List.takeWhile_append_of_pos]
    · simp
    · intro c hc
      simpa using ne_of_mem_of_not_mem (List.mem_reverse.mp hc) hlast
  have hdropped : (before ++ '.' :: extension).reverse.drop extension.reverse.length =
      '.' :: before.reverse := by
    simp
  rw [extension?, hname, Option.bind_some]
  dsimp only
  rw [hafter, hdropped, List.reverse_reverse]
  cases hreverse : before.reverse with
  | nil => simp [List.reverse_eq_nil_iff.mp hreverse]
  | cons c rest =>
    have hne : before ≠ [] := fun h ↦ by simp [h] at hreverse
    rw [if_neg hne]

theorem extension?_of_no_dot {path : Text} (hname : fileName? path = some name)
    (hdot : '.' ∉ name) : extension? path = none := by
  have hafter : name.reverse.takeWhile (· != '.') = name.reverse :=
    List.takeWhile_eq_self_iff.mpr fun c hc ↦ by
      simpa using ne_of_mem_of_not_mem (List.mem_reverse.mp hc) hdot
  rw [extension?, hname, Option.bind_some]
  dsimp only
  rw [hafter, List.drop_length]

/-- The last dot of a name parts it into what stands before it and the extension. -/
theorem extension?_eq_some_iff (path extension : Text) :
    extension? path = some extension ↔
      ∃ before, fileName? path = some (before ++ '.' :: extension) ∧ before ≠ [] ∧
        '.' ∉ extension := by
  constructor
  · intro h
    obtain ⟨name, hname, -⟩ := Option.bind_eq_some_iff.mp h
    by_cases hdot : '.' ∈ name
    · -- The last dot is the first one of the name read backwards.
      obtain ⟨after, front, hreverse, hlast⟩ :=
        List.eq_append_cons_of_mem (List.mem_reverse.mpr hdot)
      have hparts : name = front.reverse ++ '.' :: after.reverse := by
        simpa using congrArg List.reverse hreverse
      have hlast : '.' ∉ after.reverse := fun hmem ↦ hlast (List.mem_reverse.mp hmem)
      rw [hparts] at hname
      rw [extension?_of_dot hname hlast] at h
      split_ifs at h with hnil
      obtain rfl := Option.some.inj h
      exact ⟨front.reverse, hname, hnil, hlast⟩
    · rw [extension?_of_no_dot hname hdot] at h
      contradiction
  · rintro ⟨before, hname, hne, hlast⟩
    rw [extension?_of_dot hname hlast, if_neg hne]

end StudyGuide.FilePath
