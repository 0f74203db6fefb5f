import StudyGuide.Command.Execution
import StudyGuide.FileStore.Places

/-!
The program. The files that a request names are taken into a store, the command runs on the store,
and what it changed there is written back to the disk.
-/

set_option autoImplicit false
set_option relaxedAutoImplicit false

namespace StudyGuide.Main

def string (text : Text) : String := String.ofList text

def environment : IO Environment := do
  let values ← Command.variableNames.mapM fun name ↦ do
    return (name, ← IO.getEnv (string name))
  return values.filterMap fun (name, value) ↦ value.map fun value ↦ (name, value.toList)

/-- What stands at a place of the disk. -/
def nodeAt? (location : Location) : IO (Option Node) := do
  try
    return some (.file (← IO.FS.readBinFile (string (FileStore.absolutePath location))).toList)
  catch error =>
    match error with
    | .inappropriateType _ code _ => return if code = 21 then some .directory else none
    | _ => return none

/-- Takes what stands at the places into a store. -/
def load (store : FileStore) (places : List Location) : IO FileStore :=
  places.foldlM (fun store place ↦ do
    match ← nodeAt? place with
    | some node => return store.put place node
    | none => return store) store

/-- Writes back what is new in a store. -/
def apply (store earlier : FileStore) : IO Unit := do
  for location in store.newDirectories earlier do
    IO.FS.createDirAll (string (FileStore.absolutePath location))
  for (location, content) in store.fromRoot.changesSince earlier.fromRoot do
    let path := string (FileStore.absolutePath location)
    let temporary := path ++ ".tmp"
    IO.FS.writeBinFile temporary ⟨content.toArray⟩
    IO.FS.rename temporary path

/-- Runs a request on the files it names. The first run shows which files it would write; what
stands in their places is known to the second. -/
def execute (env : Environment) (request : Command.Request) : IO (FileStore × Command.Ending) := do
  let working := (Text.splitAt '/' (← IO.currentDir).toString.toList).filter (· ≠ [])
  let empty := FileStore.atDirectory working
  let named ← load empty (request.paths.flatMap empty.stops)
  let trial := Command.execute env named request
  let store ← load named ((trial.store.fromRoot.changesSince named.fromRoot).map (·.1))
  return (store, Command.execute env store request)

def run (arguments : List String) : IO UInt32 := do
  let started ← IO.monoMsNow
  let env ← environment
  let (store, ending) ← match Command.request env (arguments.map String.toList) with
    | .error stop =>
      let store := FileStore.atDirectory []
      pure (store, Command.Ending.stopped env store stop)
    | .ok request => execute env request
  apply ending.store store
  let totalMs := (← IO.monoMsNow) - started
  let timing : Timing := { encodeMs := 0, generationMs := totalMs, totalMs }
  IO.print (string (ending.output timing))
  IO.eprint (string (ending.messages timing))
  return ending.code.toUInt32

end StudyGuide.Main

def main (arguments : List String) : IO UInt32 := StudyGuide.Main.run arguments
