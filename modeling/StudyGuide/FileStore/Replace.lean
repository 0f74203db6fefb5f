import StudyGuide.FileStore

/-!
Writing a file so that it holds either all of its new content or what it held before. The content
goes to a temporary file in the same directory, which takes the place of the file when it is
complete; if a stage fails, the temporary file is removed.
-/

set_option autoImplicit false
set_option relaxedAutoImplicit false

namespace StudyGuide

/-- The stages of a write, in order. -/
inductive WriteStage where
  | makeParent
  | openTemporary
  | fill
  | sync
  | rename
deriving DecidableEq, Repr

/-- A stage that the disk makes fail. -/
structure Obstacle where
  stage : WriteStage
  fault : FileFault
  /-- How far the stage gets: how many names of the directory it passes, or how many bytes it
  leaves in the temporary file. -/
  progress : Nat

namespace FileStore

/-- The fault that an obstacle puts at a stage. -/
def faultAt? (obstacle : Option Obstacle) (stage : WriteStage) : Option FileFault :=
  match obstacle with
  | none => none
  | some obstacle => if obstacle.stage = stage then some obstacle.fault else none

def progress (obstacle : Option Obstacle) : Nat := (obstacle.map Obstacle.progress).getD 0

/-- Makes the directory that a file is to stand in, but passes so many of its names at most. -/
def makeParentPartly (store : FileStore) (count : Nat) (path : Text) : FileStore :=
  let directory := FilePath.directory path
  match checkPath directory with
  | .error _ => store
  | .ok _ =>
    (store.makeFrom (store.origin directory) false ((Text.splitAt '/' directory).take count)).1

def temporaryName (number : Nat) : Text := ".tmp" ++ Text.ofNat number

/-- A place in a directory where nothing stands: one of the first numbers is free, since there
are more of them than files. -/
def temporary (store : FileStore) (directory : Location) : Location :=
  let place (number : Nat) : Location := directory ++ [temporaryName number]
  let free := (List.range (store.nodes.size + 1)).find? fun number ↦
    (store.node? (place number)).isNone
  place (free.getD 0)

/-- The stages after the temporary file stands at its place. -/
def replaceFrom (store : FileStore) (obstacle : Option Obstacle) (place : Location) (path : Text)
    (content : Bytes) : Effect :=
  match faultAt? obstacle .fill with
  | some fault =>
    let partly := content.take (progress obstacle)
    ((store.put place (.file partly)).erase place, some fault)
  | none =>
    let filled := store.put place (.file content)
    match (faultAt? obstacle .sync).or (faultAt? obstacle .rename) with
    | some fault => (filled.erase place, some fault)
    | none =>
      match filled.rename place path with
      | .error fault => (filled.erase place, some fault)
      | .ok store => (store, none)

/-- Writes a file by way of a temporary one. -/
def replaceFile (store : FileStore) (obstacle : Option Obstacle) (path : Text) (content : Bytes) :
    Effect :=
  match faultAt? obstacle .makeParent with
  | some fault => (store.makeParentPartly (progress obstacle) path, some fault)
  | none =>
    match store.makeParent path with
    | (store, some fault) => (store, some fault)
    | (store, none) =>
      match faultAt? obstacle .openTemporary, store.locate (FilePath.directory path) with
      | some fault, _ => (store, some fault)
      | none, .error fault => (store, some fault)
      | none, .ok directory =>
        let place := store.temporary directory
        replaceFrom (store.put place (.file [])) obstacle place path content

end FileStore

end StudyGuide
