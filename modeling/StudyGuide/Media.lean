import StudyGuide.Base64
import StudyGuide.FileStore
import StudyGuide.Media.Address
import StudyGuide.Media.Kind
import StudyGuide.Text.Described

/-!
Inputs of a run: photos and recordings, read from files or addresses, and the parts that they are
sent as.
-/

set_option autoImplicit false
set_option relaxedAutoImplicit false

namespace StudyGuide

/-- One input with its content. -/
structure Media where
  /-- Position among the inputs. -/
  index : Nat
  /-- The path or address as given. -/
  source : Text
  bytes : Bytes
  /-- An accepted type, by its canonical name. -/
  mimeType : Text
deriving DecidableEq, Repr

inductive MediaFamily where
  | image
  | audio
deriving DecidableEq, Repr

/-- An input as it is sent. -/
structure MediaPart where
  /-- The content in Base64. -/
  data : Text
  mimeType : Text
deriving DecidableEq, Repr

/-- A description for logs, which gives the length of the data alone. -/
def MediaPart.describe (part : MediaPart) : Text :=
  Text.Described.record "MediaPart" [
    ("data", '<' :: Text.ofNat part.data.length ++ " base64 chars>"),
    ("mime_type", Text.Quoted.encode part.mimeType)]

namespace Media

def family (media : Media) : MediaFamily :=
  if Text.startsWith media.mimeType "audio/" then .audio else .image

def toPart (media : Media) : MediaPart :=
  { data := Base64.encode media.bytes, mimeType := media.mimeType }

/-- A description for logs, which gives the length of the content alone. -/
def describe (media : Media) : Text :=
  Text.Described.record "ResolvedMedia" [
    ("index", Text.ofNat media.index),
    ("source", Text.Quoted.encode media.source),
    ("bytes", Text.ofNat media.bytes.length),
    ("mime_type", Text.Quoted.encode media.mimeType)]

/-! ### Reading -/

/-- Why the content of an address could not be had. -/
inductive DownloadFailure where
  | failed (reason : Text)
  | timedOut (seconds : Nat)
  | tooLarge (size limit : Nat)
deriving DecidableEq, Repr

def DownloadFailure.toError (url : Text) : DownloadFailure → GuideError
  | failed reason => .downloadFailed url reason
  | timedOut seconds => .downloadTimeout url seconds
  | tooLarge size limit => .fileTooLarge url size limit

/-- Fetches an address: the content and the type that is declared for it. -/
abbrev Fetch := Text → Except DownloadFailure (Bytes × Option Text)

/-- Fetches where nothing answers. -/
def fetchOffline : Fetch := fun url ↦
  let failed (reason : Text) := .error (.failed reason)
  match (Address.parse? url).map Address.asked with
  | none => failed "builder error"
  | some address =>
    failed ((if address.isSendable then "error sending request" else "builder error") ++
      " for url (" ++ address.text ++ ")")

def checkSize (source : Text) (size limit : Nat) : Except GuideError Unit :=
  if limit < size then .error (.fileTooLarge source size limit) else .ok ()

/-- The content of a file of at most `limit` bytes. -/
def readLocal (store : FileStore) (limit : Nat) (path : Text) : Except GuideError Bytes :=
  if Text.trim path = [] then .error (.invalidInput path)
  else match store.locate path with
    | .error _ => .error (.fileNotFound path)
    | .ok location =>
      match store.node? location with
      | none => .error (.fileNotFound path)
      | some .directory => .error (.invalidInput path)
      | some (.file content) => (checkSize path content.length limit).map fun _ ↦ content

/-- What inputs are read from. -/
structure Reader where
  store : FileStore
  fetch : Fetch := fetchOffline
  detector : MediaType.Detector := .standard
  /-- The largest content that is taken, in bytes. -/
  limit : Nat

/-- The content of a source and the type that is declared for it. -/
def Reader.contents (reader : Reader) (source : Text) : Except GuideError (Bytes × Option Text) :=
  if Source.isUrl source then (reader.fetch source).mapError (DownloadFailure.toError source)
  else (readLocal reader.store reader.limit source).map fun bytes ↦ (bytes, none)

def resolve (reader : Reader) (index : Nat) (source : Text) : Except GuideError Media := do
  let (bytes, declared) ← reader.contents source
  let mimeType ← reader.detector.detect source bytes declared
  return { index, source, bytes, mimeType }

end Media

end StudyGuide
