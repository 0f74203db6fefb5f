import StudyGuide.Bytes
import StudyGuide.GuideError
import StudyGuide.Media.Source
import StudyGuide.Text.Casing

/-!
The media type of an input. A type that is declared for it decides, if it is an accepted one;
then the extension of its path, and last the first bytes of its content. Accepted types have one
canonical name each, whatever alias they came under.
-/

set_option autoImplicit false
set_option relaxedAutoImplicit false

namespace StudyGuide.MediaType

/-- Accepted types by every name, each with its canonical one. -/
def accepted : List (Text × Text) := [
  ("image/png", "image/png"), ("image/jpeg", "image/jpeg"), ("image/jpg", "image/jpeg"),
  ("image/pjpeg", "image/jpeg"), ("image/webp", "image/webp"), ("audio/mpeg", "audio/mpeg"),
  ("audio/mp3", "audio/mpeg"), ("audio/wav", "audio/wav"), ("audio/x-wav", "audio/wav"),
  ("audio/wave", "audio/wav"), ("audio/vnd.wave", "audio/wav"), ("audio/mp4", "audio/mp4"),
  ("audio/m4a", "audio/mp4"), ("audio/x-m4a", "audio/mp4"), ("audio/ogg", "audio/ogg")]

def canonical? (name : Text) : Option Text :=
  (accepted.find? (·.1 == Text.asciiLower name)).map (·.2)

/-- Types of images, with the extensions that stand for them. -/
def imageExtensions : List (Text × List Text) := [
  ("image/png", ["png", "pnz"]), ("image/jpeg", ["jpg", "jpeg", "jpe", "jfif"]),
  ("image/webp", ["webp"]), ("image/apng", ["apng"]), ("image/avif", ["avif"]),
  ("image/bmp", ["bmp"]), ("image/gif", ["gif"]), ("image/heic", ["heic"]),
  ("image/x-icon", ["ico"]), ("image/jp2", ["jp2"]), ("image/svg+xml", ["svg"]),
  ("image/tiff", ["tiff"])]

/-- Types of recordings. -/
def audioExtensions : List (Text × List Text) := [
  ("audio/mpeg", ["mp3", "mp2", "mp2a", "m2a", "m3a", "mpga"]), ("audio/wav", ["wav", "wave"]),
  ("audio/m4a", ["m4a"]), ("audio/mp4", ["mp4a"]), ("audio/ogg", ["ogg", "oga", "opus", "spx"]),
  ("audio/aac", ["aac"]), ("audio/aiff", ["aiff"]), ("audio/flac", ["flac"]),
  ("audio/x-mpegurl", ["m3u"]), ("audio/mid", ["mid"]), ("audio/webm", ["weba"])]

/-- Types of other files that users try. -/
def otherExtensions : List (Text × List Text) := [
  ("video/quicktime", ["mov"]), ("video/mp4", ["mp4"]), ("video/webm", ["webm"]),
  ("text/html", ["html"]), ("text/markdown", ["md"]), ("text/plain", ["txt"]),
  ("application/octet-stream", ["bin"]), ("application/msword", ["doc"]),
  ("application/vnd.openxmlformats-officedocument.wordprocessingml.document", ["docx"]),
  ("application/pdf", ["pdf"]), ("application/x-tar", ["tar"]), ("application/zip", ["zip"])]

def extensions : List (Text × List Text) := imageExtensions ++ audioExtensions ++ otherExtensions

/-- The type that the extension of a path stands for; case does not matter, nor do ligatures. -/
def ofPath? (path : Text) : Option Text :=
  (FilePath.extension? path).bind fun extension ↦
    (extensions.find? fun (_, names) ↦ names.contains (Text.asciiFolded extension)).map (·.1)

/-- The image formats that first bytes show. -/
inductive ImageFormat where
  | png
  | jpeg
  | webp
  /-- A format that is not accepted. -/
  | other
deriving DecidableEq, Repr

def ImageFormat.mimeType? : ImageFormat → Option Text
  | png => some "image/png"
  | jpeg => some "image/jpeg"
  | webp => some "image/webp"
  | other => none

/-- The image format that the first bytes show. -/
def imageFormat? (bytes : Bytes) : Option ImageFormat :=
  if bytes.startsWith [0x89, 0x50, 0x4E, 0x47, 0x0D, 0x0A, 0x1A, 0x0A] then some .png
  else if bytes.startsWith [0xFF, 0xD8, 0xFF] then some .jpeg
  else if bytes.startsWith (.ofText "GIF87a") || bytes.startsWith (.ofText "GIF89a") then
    some .other
  else if bytes.startsWith (.ofText "RIFF") && bytes.hasAt 8 (.ofText "WEBP") then some .webp
  else none

/-- Bytes that stand at the given places show an audio type. -/
def audioMarks : List (Text × List (Nat × Bytes)) := [
  ("audio/mpeg", [(0, .ofText "ID3")]), ("audio/mpeg", [(0, [0xFF, 0xFB])]),
  ("audio/mpeg", [(0, [0xFF, 0xF3])]), ("audio/wav", [(0, .ofText "RIFF"), (8, .ofText "WAVE")]),
  ("audio/ogg", [(0, .ofText "OggS")]), ("audio/mp4", [(4, .ofText "ftyp"), (8, .ofText "M4A")])]

/-- The audio type that the first bytes show. -/
def audioOfBytes? (bytes : Bytes) : Option Text :=
  (audioMarks.find? fun (_, marks) ↦ marks.all fun (start, mark) ↦ bytes.hasAt start mark).map (·.1)

/-- How types are found: by a path, and by the first bytes of an image. -/
structure Detector where
  ofPath? : Text → Option Text
  imageFormat? : Bytes → Option ImageFormat

namespace Detector

def standard : Detector where
  ofPath? := MediaType.ofPath?
  imageFormat? := MediaType.imageFormat?

def sniff? (detector : Detector) (bytes : Bytes) : Option Text :=
  ((detector.imageFormat? bytes).bind ImageFormat.mimeType?).or (audioOfBytes? bytes)

/-- The canonical type of an input. An input without one is reported by what is known of it. -/
def detect (detector : Detector) (source : Text) (bytes : Bytes) (declared : Option Text) :
    Except GuideError Text :=
  let guessed := detector.ofPath? (Source.path source)
  match (declared.bind canonical?).or ((guessed.bind canonical?).or (detector.sniff? bytes)) with
  | some mimeType => .ok mimeType
  | none =>
    .error (.unsupportedMedia source ((declared.or guessed).getD "application/octet-stream"))

end Detector

end StudyGuide.MediaType
