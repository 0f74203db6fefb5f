import Mathlib.Tactic.SplitIfs
import StudyGuide.FileStore

/-!
What stands at the locations of a store, and what is met on the way to one. Whoever follows a path
passes directories only, until the last name (`follow_cons_eq_ok_iff`). So a store that keeps the
directories of another one leads to every place that the other led to, if there is still something
there (`Keeps.follow_eq`). Files may come and go on the side.
-/

set_option autoImplicit false
set_option relaxedAutoImplicit false

namespace StudyGuide.FileStore

variable {store before after : FileStore}

/-! ### Operations that may be refused -/

section Refusals

variable {ε α β : Type} {first : Except ε α} {next : α → Except ε β} {result : β}

theorem bind_eq_ok_iff :
    first >>= next = .ok result ↔ ∃ value, first = .ok value ∧ next value = .ok result := by
  cases first with
  | error fault => simp [bind, Except.bind]
  | ok value => simp [bind, Except.bind]

theorem refuse_eq_ok_iff {refused : Prop} [Decidable refused] {fault : ε} {rest : Except ε β} :
    (if refused then throw fault >>= next else rest) = .ok result ↔
      ¬refused ∧ rest = .ok result := by
  split_ifs with hrefused
  · simp [hrefused, bind, Except.bind, throw, throwThe, MonadExceptOf.throw]
  · simp [hrefused]

end Refusals

/-! ### Files -/

/-- The content of the file at a location. -/
def file? (store : FileStore) (location : Location) : Option Bytes :=
  match store.node? location with
  | some (.file content) => some content
  | some .directory | none => none

theorem isDirectoryAt_iff (store : FileStore) (location : Location) :
    store.isDirectoryAt location = true ↔ store.node? location = some .directory :=
  beq_iff_eq

theorem isDirectoryAt_eq_false_iff (store : FileStore) (location : Location) :
    store.isDirectoryAt location = false ↔ store.node? location ≠ some .directory :=
  beq_eq_false_iff_ne

theorem file?_congr {location : Location} (h : after.node? location = before.node? location) :
    after.file? location = before.file? location := by
  rw [file?, h, file?]

theorem file?_of_node? {location : Location} {content : Bytes}
    (h : store.node? location = some (.file content)) : store.file? location = some content := by
  rw [file?, h]

/-! ### Directories -/

/-- Directories are directories still, and relative paths start where they did. -/
structure Keeps (before after : FileStore) : Prop where
  working_eq : after.working = before.working
  isDirectoryAt : ∀ location, before.isDirectoryAt location = true →
    after.isDirectoryAt location = true

namespace Keeps

theorem refl (store : FileStore) : Keeps store store := ⟨rfl, fun _ ↦ id⟩

theorem trans {first second third : FileStore} (h : Keeps first second)
    (hnext : Keeps second third) : Keeps first third :=
  ⟨hnext.working_eq.trans h.working_eq, fun location hlocation ↦
    hnext.isDirectoryAt location (h.isDirectoryAt location hlocation)⟩

theorem origin_eq (h : Keeps before after) (path : Text) :
    after.origin path = before.origin path := by
  rw [origin, origin, h.working_eq]

/-- Only a node in the place of a directory is in the way. -/
theorem put {place : Location} (hplace : place ≠ []) {node : Node}
    (h : store.isDirectoryAt place = true → node = .directory) : Keeps store (store.put place node) where
  working_eq := rfl
  isDirectoryAt := fun location hlocation ↦ by
    rw [isDirectoryAt_iff, node?_put _ _ _ _ hplace]
    split_ifs with heq
    · rw [h (heq ▸ hlocation)]
    · exact (isDirectoryAt_iff _ _).mp hlocation

end Keeps

/-! ### Following names -/

/-- A name is followed from a directory: nowhere, upwards, or to something that is there. -/
theorem follow_cons_eq_ok_iff (store : FileStore) (origin target : Location) (name : Text)
    (rest : List Text) :
    store.follow origin (name :: rest) = .ok target ↔
      store.isDirectoryAt origin = true ∧
        ((name = [] ∨ name = ['.']) ∧ store.follow origin rest = .ok target ∨
          name = ['.', '.'] ∧ store.follow origin.dropLast rest = .ok target ∨
          (¬(name = [] ∨ name = ['.']) ∧ name ≠ ['.', '.'] ∧ Text.byteLength name ≤ longestName ∧
            store.node? (origin ++ [name]) ≠ none ∧
            store.follow (origin ++ [name]) rest = .ok target)) := by
  rw [follow]
  by_cases horigin : store.isDirectoryAt origin = true
  · rw [horigin]
    split_ifs with hfalse hstay hup hlong
    · contradiction
    · have hdown : name ≠ ['.', '.'] := by rcases hstay with rfl | rfl <;> decide
      simp [hstay, hdown]
    · simp [hup]
    · simp [hstay, hup, Nat.not_le.mpr hlong]
    · cases hnode : store.node? (origin ++ [name]) <;>
        simp [hstay, hup, Nat.not_lt.mp hlong]
  · simp [horigin]

theorem follow_append (store : FileStore) (origin : Location) (first second : List Text) :
    store.follow origin (first ++ second) =
      store.follow origin first >>= fun middle ↦ store.follow middle second := by
  induction first generalizing origin with
  | nil => rfl
  | cons name rest ih =>
    rw [List.cons_append, follow, follow]
    split_ifs with horigin hstay hup hlong
    · rfl
    · exact ih origin
    · exact ih origin.dropLast
    · rfl
    · cases store.node? (origin ++ [name]) with
      | none => rfl
      | some node => exact ih (origin ++ [name])

/-- The way leads through the same places of both stores, since all but the last of them are
directories. -/
theorem Keeps.follow_eq (h : Keeps before after) {origin target : Location} {names : List Text}
    (hfollow : before.follow origin names = .ok target) (htarget : after.node? target ≠ none) :
    after.follow origin names = .ok target := by
  induction names generalizing origin with
  | nil => exact hfollow
  | cons name rest ih =>
    rw [follow_cons_eq_ok_iff] at hfollow ⊢
    obtain ⟨horigin, hstay | hup | hdown⟩ := hfollow
    · exact ⟨h.isDirectoryAt origin horigin, .inl ⟨hstay.1, ih hstay.2⟩⟩
    · exact ⟨h.isDirectoryAt origin horigin, .inr (.inl ⟨hup.1, ih hup.2⟩)⟩
    · obtain ⟨hname, hdots, hlength, -, hrest⟩ := hdown
      refine ⟨h.isDirectoryAt origin horigin, .inr (.inr ⟨hname, hdots, hlength, ?_, ih hrest⟩)⟩
      -- What is passed on the way is a directory, and what ends it is the target.
      cases rest with
      | nil => exact Except.ok.inj hrest ▸ htarget
      | cons next more =>
        have hpassed := ((follow_cons_eq_ok_iff _ _ _ _ _).mp hrest).1
        rw [(isDirectoryAt_iff _ _).mp (h.isDirectoryAt _ hpassed)]
        exact Option.some_ne_none _

theorem Keeps.follow_of_isDirectoryAt (h : Keeps before after) {origin target : Location}
    {names : List Text} (hfollow : before.follow origin names = .ok target)
    (htarget : before.isDirectoryAt target = true) :
    after.follow origin names = .ok target := by
  refine h.follow_eq hfollow ?_
  rw [(isDirectoryAt_iff _ _).mp (h.isDirectoryAt target htarget)]
  exact Option.some_ne_none _

/-! ### Locating paths -/

theorem locate_eq_ok_iff (store : FileStore) (path : Text) (location : Location) :
    store.locate path = .ok location ↔
      checkPath path = .ok () ∧
        store.follow (store.origin path) (Text.splitAt '/' path) = .ok location := by
  unfold locate
  rw [bind_eq_ok_iff]
  exact ⟨fun ⟨_, h⟩ ↦ h, fun h ↦ ⟨(), h⟩⟩

theorem Keeps.locate_eq (h : Keeps before after) {path : Text} {location : Location}
    (hlocate : before.locate path = .ok location) (hlocation : after.node? location ≠ none) :
    after.locate path = .ok location := by
  obtain ⟨hcheck, hfollow⟩ := (locate_eq_ok_iff _ _ _).mp hlocate
  refine (locate_eq_ok_iff _ _ _).mpr ⟨hcheck, ?_⟩
  rw [h.origin_eq]
  exact h.follow_eq hfollow hlocation

end StudyGuide.FileStore
