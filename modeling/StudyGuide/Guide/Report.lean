import StudyGuide.Guide
import StudyGuide.Json

/-!
A guide as JSON: everything but its file.
-/

set_option autoImplicit false
set_option relaxedAutoImplicit false

namespace StudyGuide

/-- How long a guide took, in milliseconds. -/
structure Timing where
  encodeMs : Nat
  generationMs : Nat
  totalMs : Nat
  /-- The whole time as it is shown. -/
  shown : Text := Text.ofNat totalMs ++ "ms"

/-- A heading has a label, and any other block a payload. -/
def Block.toJson (block : Block) : Json :=
  .object [
    ("kind", .string block.kind.name),
    (if block.kind = .heading then "label" else "payload", .string block.text)]

def Document.toJson (doc : Document) : Json :=
  .object [
    ("title", .string doc.title), ("author", .string doc.author),
    ("blocks", .array (doc.blocks.map Block.toJson))]

def Stats.toJson (stats : Stats) (timing : Timing) : Json :=
  .object [
    ("input_files", .ofNat stats.inputFiles),
    ("image_files", .ofNat stats.imageFiles),
    ("audio_files", .ofNat stats.audioFiles),
    ("input_bytes", .ofNat stats.inputBytes),
    ("input_tokens", .ofNat stats.inputTokens),
    ("output_tokens", .ofNat stats.outputTokens),
    ("retries", .ofNat stats.retries),
    ("blocks", .ofNat stats.blocks),
    ("dropped_lines", .ofNat stats.droppedLines),
    ("default_title", .bool stats.usesDefaultTitle),
    ("pages", .ofNat stats.pages),
    ("pdf_bytes", .ofNat stats.pdfBytes),
    ("remaining_credits", .ofOption .number stats.remainingCredits),
    ("encode_duration_ms", .ofNat timing.encodeMs),
    ("generation_duration_ms", .ofNat timing.generationMs),
    ("total_duration_ms", .ofNat timing.totalMs)]

def Guide.toJson (guide : Guide) (timing : Timing) : Json :=
  .object [
    ("raw_text", .string guide.rawText),
    ("document", guide.document.toJson),
    ("file_name", .string guide.fileName),
    ("stats", guide.stats.toJson timing)]

end StudyGuide
