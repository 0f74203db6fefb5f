import StudyGuide.FileStore

/-!
The places of a store that paths lead past, for a store that is yet to be filled from a disk.
-/

set_option autoImplicit false
set_option relaxedAutoImplicit false

namespace StudyGuide.FileStore

/-- The locations that names lead past from a directory. -/
def stopsFrom (location : Location) : List Text → List Location
  | [] => []
  | name :: rest =>
    if name = [] ∨ name = ['.'] then stopsFrom location rest
    else if name = ['.', '.'] then stopsFrom location.dropLast rest
    else (location ++ [name]) :: stopsFrom (location ++ [name]) rest

/-- The locations that a path leads past. -/
def stops (store : FileStore) (path : Text) : List Location :=
  stopsFrom (store.origin path) (Text.splitAt '/' path)

/-- The absolute path of a location. -/
def absolutePath (location : Location) : Text := '/' :: Text.joinWith ['/'] location

/-- The same files, seen from the root. -/
def fromRoot (store : FileStore) : FileStore := { store with working := [] }

/-- The directories that a store has and an earlier one did not have. -/
def newDirectories (store earlier : FileStore) : List Location :=
  store.nodes.toList.filterMap fun (location, node) ↦
    if node = .directory ∧ !earlier.isDirectoryAt location then some location else none

end StudyGuide.FileStore
