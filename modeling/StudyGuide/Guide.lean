import StudyGuide.Media
import StudyGuide.Config
import StudyGuide.Output
import StudyGuide.Pdf

/-!
A finished guide: the answer of the model, the document it was compiled to, the file, and counts
of what went in and came out.
-/

set_option autoImplicit false
set_option relaxedAutoImplicit false

namespace StudyGuide

/-- What happens on the way to a guide, as it is told to whoever watches. -/
inductive Event where
  /-- The reading of so many inputs begins. -/
  | encodeStart (inputs : Nat)
  /-- An input has been read. -/
  | encoded (index total bytes : Nat)
  /-- An input could not be read. -/
  | failed (index total : Nat) (message : Text)
  /-- The model is asked with so many inputs. -/
  | generationStart (inputs : Nat)
  /-- The model has answered with a text of so many bytes. -/
  | generationComplete (bytes retries : Nat)
  /-- The answer has been compiled. -/
  | compileComplete (blocks droppedLines : Nat)
deriving DecidableEq, Repr

structure Stats where
  inputFiles : Nat := 0
  imageFiles : Nat := 0
  audioFiles : Nat := 0
  inputBytes : Nat := 0
  inputTokens : Nat := 0
  outputTokens : Nat := 0
  /-- Failed calls of the model before the answer. -/
  retries : Nat := 0
  blocks : Nat := 0
  droppedLines : Nat := 0
  usesDefaultTitle : Bool := false
  pages : Nat := 0
  pdfBytes : Nat := 0
  /-- The balance after the guide was paid, if it was. -/
  remainingCredits : Option Int := none
deriving DecidableEq, Repr

namespace Stats

def ofMedia (media : List Media) : Stats where
  inputFiles := media.length
  imageFiles := media.countP (·.family == .image)
  audioFiles := media.countP (·.family == .audio)
  inputBytes := (media.map (·.bytes.length)).foldr (· + ·) 0

def withReport (stats : Stats) (report : Compilation.Report) : Stats :=
  { stats with
    blocks := report.blocks
    droppedLines := report.droppedLines
    usesDefaultTitle := report.usesDefaultTitle }

end Stats

structure Guide where
  /-- The answer of the model as it came. -/
  rawText : Text
  document : Document
  fileName : Text
  pdf : Bytes
  stats : Stats
deriving DecidableEq, Repr

namespace Guide

/-- Compiles an answer and draws it. Watchers hear of the compilation before the drawing, which may
fail. -/
def build (render : Renderer) (config : Config) (rawText : Text) (stats : Stats) :
    List Event × Except GuideError Guide :=
  let (document, report) :=
    Compilation.compileWith config.sanitizer config.defaultTitle rawText config.author
  let stats := stats.withReport report
  ([.compileComplete report.blocks report.droppedLines],
    (render (.ofDocument config.theme document)).map fun rendered ↦
      { rawText
        document
        fileName := document.fileName
        pdf := rendered.bytes
        stats := { stats with pages := rendered.pageCount, pdfBytes := rendered.bytes.length } })

/-- A guide of a text that is there already: no model is asked and no credit is spent. -/
def ofText (config : Config) (rawText : Text) (render : Renderer := .standard) :
    List Event × Except GuideError Guide :=
  build render config rawText {}

/-- Where a guide is saved when `output` is asked for. -/
def pathIn (guide : Guide) (store : FileStore) (output : Text) : Text :=
  Output.path store output guide.fileName

/-- Saves the file of a guide, all of it or nothing. -/
def save (guide : Guide) (store : FileStore) (output : Text) :
    FileStore × Except GuideError Unit :=
  Output.write store none (guide.pathIn store output) guide.pdf

end Guide

end StudyGuide
