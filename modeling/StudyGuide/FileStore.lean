import Std.Data.HashMap
import StudyGuide.Bytes
import StudyGuide.Media.Source

/-!
A store of files. It maps locations, which are names from the root, to files and directories, and
has a working directory that relative paths start from. Paths are followed name by name: every
name but the last must be a directory, two dots go up, and a path that ends in a separator or a
dot must end at a directory.
-/

set_option autoImplicit false
set_option relaxedAutoImplicit false

namespace StudyGuide

/-- Why an operation on files was refused. -/
inductive FileFault where
  | notFound
  | alreadyExists
  | busy
  | notADirectory
  | isADirectory
  | invalidArgument
  | invalidName
  | nameTooLong
  /-- The content is not text. -/
  | notText
deriving DecidableEq, Repr

def FileFault.message : FileFault → Text
  | notFound => "No such file or directory (os error 2)"
  | busy => "Device or resource busy (os error 16)"
  | alreadyExists => "File exists (os error 17)"
  | notADirectory => "Not a directory (os error 20)"
  | isADirectory => "Is a directory (os error 21)"
  | invalidArgument => "Invalid argument (os error 22)"
  | invalidName => "file name contained an unexpected NUL byte"
  | nameTooLong => "File name too long (os error 36)"
  | notText => "stream did not contain valid UTF-8"

/-- The names from the root to a file or directory. -/
abbrev Location := List Text

instance : Hashable Location where
  hash location := hash (location.map String.ofList)

inductive Node where
  | file (content : Bytes)
  | directory
deriving DecidableEq, Repr

structure FileStore where
  nodes : Std.HashMap Location Node
  working : Location

namespace FileStore

def node? (store : FileStore) (location : Location) : Option Node :=
  if location = [] then some .directory
  else store.nodes[location]?

def isDirectoryAt (store : FileStore) (location : Location) : Bool :=
  store.node? location == some .directory

/-- Puts a node in the place of what was there. -/
def put (store : FileStore) (location : Location) (node : Node) : FileStore :=
  { store with nodes := store.nodes.insert location node }

def erase (store : FileStore) (location : Location) : FileStore :=
  { store with nodes := store.nodes.erase location }

theorem node?_put (store : FileStore) (place location : Location) (node : Node) (h : place ≠ []) :
    (store.put place node).node? location =
      if place = location then some node else store.node? location := by
  unfold node? put
  by_cases h' : location = []
  · simp [h', h]
  · simp [h', Std.HashMap.getElem?_insert]

theorem node?_erase (store : FileStore) (place location : Location) (h : place ≠ []) :
    (store.erase place).node? location =
      if place = location then none else store.node? location := by
  unfold node? erase
  by_cases h' : location = []
  · simp [h', h]
  · simp [h', Std.HashMap.getElem?_erase]

/-! ### Following paths -/

/-- The longest name, in bytes. -/
def longestName : Nat := 255

/-- The longest path, in bytes. -/
def longestPath : Nat := 4095

/-- Refuses the paths that lead nowhere, whatever is in the store. -/
def checkPath (path : Text) : Except FileFault Unit :=
  if path = [] then .error .notFound
  else if '\x00' ∈ path then .error .invalidName
  else if longestPath < Text.byteLength path then .error .nameTooLong
  else .ok ()

/-- The location that names lead to from a directory. -/
def follow (store : FileStore) (location : Location) : List Text → Except FileFault Location
  | [] => .ok location
  | name :: rest =>
    if !store.isDirectoryAt location then .error .notADirectory
    else if name = [] ∨ name = ['.'] then store.follow location rest
    else if name = ['.', '.'] then store.follow location.dropLast rest
    else if longestName < Text.byteLength name then .error .nameTooLong
    else match store.node? (location ++ [name]) with
      | none => .error .notFound
      | some _ => store.follow (location ++ [name]) rest

/-- Where a path starts. -/
def origin (store : FileStore) (path : Text) : Location :=
  if FilePath.isAbsolute path then [] else store.working

/-- The location of what a path names. -/
def locate (store : FileStore) (path : Text) : Except FileFault Location := do
  checkPath path
  store.follow (store.origin path) (Text.splitAt '/' path)

def isDirectory (store : FileStore) (path : Text) : Bool :=
  match store.locate path with
  | .ok location => store.isDirectoryAt location
  | .error _ => false

/-- The last step of a path, to something that need not be there. -/
structure Target where
  directory : Location
  /-- None if the path ends in a dot, in two, or at the root. -/
  name : Option Text
  /-- The path ends in a separator. -/
  closed : Bool

def Target.location (target : Target) : Location := target.directory ++ target.name.toList

def Target.checkName (target : Target) : Except FileFault Unit :=
  if target.name.any fun name ↦ decide (longestName < Text.byteLength name) then
    .error .nameTooLong
  else .ok ()

def target (store : FileStore) (path : Text) : Except FileFault Target := do
  checkPath path
  let names := Text.splitAt '/' path
  let trimmed := (names.reverse.dropWhile (· == [])).reverse
  let directory ← store.follow (store.origin path) trimmed.dropLast
  if !store.isDirectoryAt directory then throw .notADirectory
  let last := trimmed.getLastD ['.']
  return {
    directory
    name := if last = ['.'] ∨ last = ['.', '.'] then none else some last
    closed := trimmed.length < names.length }

/-! ### Reading -/

def readFile (store : FileStore) (path : Text) : Except FileFault Bytes := do
  match store.node? (← store.locate path) with
  | some (.file content) => return content
  | some .directory => throw .isADirectory
  | none => throw .notFound

def readText (store : FileStore) (path : Text) : Except FileFault Text := do
  match Bytes.toText? (← store.readFile path) with
  | some text => return text
  | none => throw .notText

/-! ### Writing -/

/-- A store after an operation, and why the operation stopped, if it did. -/
abbrev Effect := FileStore × Option FileFault

/-- Makes the directories that names lead through from a directory, where they are missing;
`making` says that one was missing. A file in the way is something that exists already where a
directory was to be made, which is at the last name and after a missing one; elsewhere it is no
directory. -/
def makeFrom (store : FileStore) (location : Location) (making : Bool) : List Text → Effect
  | [] => (store, none)
  | name :: rest =>
    if name = [] ∨ name = ['.'] then store.makeFrom location making rest
    else if name = ['.', '.'] then store.makeFrom location.dropLast making rest
    else if longestName < Text.byteLength name then (store, some .nameTooLong)
    else
      let place := location ++ [name]
      match store.node? place with
      | none => (store.put place .directory).makeFrom place true rest
      | some .directory => store.makeFrom place making rest
      | some (.file _) =>
        (store, some (if making ∨ rest = [] then .alreadyExists else .notADirectory))

/-- Makes a directory with those above it, where they are missing. -/
def makeDirectory (store : FileStore) (path : Text) : Effect :=
  match checkPath path with
  | .error fault => (store, some fault)
  | .ok _ => store.makeFrom (store.origin path) false (Text.splitAt '/' path)

/-- Makes the directory that a file is to stand in. -/
def makeParent (store : FileStore) (path : Text) : Effect :=
  store.makeDirectory (FilePath.directory path)

/-- Writes a file in place, over what it held. -/
def writeFile (store : FileStore) (path : Text) (content : Bytes) :
    Except FileFault FileStore := do
  let target ← store.target path
  if target.name = none ∨ target.closed then throw .isADirectory
  target.checkName
  match store.node? target.location with
  | some .directory => throw .isADirectory
  | _ => return store.put target.location (.file content)

/-- Gives a file another location, over a file that is there but not over a directory. -/
def rename (store : FileStore) (source : Location) (path : Text) :
    Except FileFault FileStore := do
  if '\x00' ∈ path then throw .invalidArgument
  let target ← store.target path
  if target.name = none then throw .busy
  target.checkName
  if target.closed then throw .notADirectory
  match store.node? source, store.node? target.location with
  | none, _ => throw .notFound
  | _, some .directory => throw .isADirectory
  | some node, _ => return (store.erase source).put target.location node

/-! ### Views -/

def locationLe : Location → Location → Bool
  | [], _ => true
  | _ :: _, [] => false
  | a :: first, b :: second => if a = b then locationLe first second else decide (a < b)

/-- The files below the working directory that an earlier store did not hold so, with their names
from there, by directory and name. -/
def changesSince (store earlier : FileStore) : List (Location × Bytes) :=
  let changes := store.nodes.toList.filterMap fun (location, node) ↦
    match node with
    | .directory => none
    | .file content =>
      if store.working.isPrefixOf location && earlier.node? location != some node then
        some (location.drop store.working.length, content)
      else none
  changes.mergeSort fun a b ↦ locationLe a.1 b.1

/-- A store whose working directory is empty. -/
def atDirectory (working : Location) : FileStore where
  nodes := Std.HashMap.ofList
    ((List.range working.length).map fun i ↦ (working.take (i + 1), .directory))
  working

/-- Adds a directory with those above it. -/
def addDirectory (store : FileStore) (path : Text) : FileStore := (store.makeDirectory path).1

/-- Adds a file with the directories above it. -/
def addFile (store : FileStore) (path : Text) (content : Bytes) : FileStore :=
  let store := (store.makeParent path).1
  match store.writeFile path content with
  | .ok store => store
  | .error _ => store

end FileStore

end StudyGuide
