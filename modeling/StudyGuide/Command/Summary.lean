import StudyGuide.Command.Terminal
import StudyGuide.Guide.Report

/-!
What the command tells at a terminal when all goes well.
-/

set_option autoImplicit false
set_option relaxedAutoImplicit false

namespace StudyGuide.Command

namespace Summary

/-- Of the events of a run one leaves a line: an answer has been compiled. -/
def eventLines : Event → List Text
  | .compileComplete blocks droppedLines => [
      green "✔" ++ ' ' :: bold (Text.ofNat blocks) ++ " blocks compiled  " ++
        dim ('(' :: Text.ofNat droppedLines ++ " lines dropped)")]
  | _ => []

def guideLine (guide : Guide) (path : Text) (timing : Timing) : Text :=
  green "✔" ++ "  " ++ bold guide.document.title ++ "  " ++ Text.ofNat guide.stats.blocks ++
    " blocks  " ++ Text.ofNat guide.stats.pages ++ " page(s)  " ++ timing.shown ++ "  →  " ++
    bold path

def tokenLine (stats : Stats) : Text :=
  "   " ++ dim (Text.ofNat stats.inputTokens) ++ " tokens in  /  " ++
    dim (Text.ofNat stats.outputTokens) ++ " tokens out"

def creditLine (credits : Int) : Text := "   " ++ dim (Text.ofInt credits) ++ " credit(s) left"

def titleLine (title : Text) : Text :=
  "   " ++ cyan "⚠" ++ " the model gave no title; using '" ++ title ++ ['\x27']

/-- The guide and where it is, and what else is worth knowing of it. -/
def lines (guide : Guide) (path : Text) (timing : Timing) : List Text :=
  let stats := guide.stats
  guideLine guide path timing ::
    (if 0 < stats.inputFiles then [tokenLine stats] else []) ++
    (stats.remainingCredits.map creditLine).toList ++
    (if stats.usesDefaultTitle then [titleLine guide.document.title] else [])

end Summary

end StudyGuide.Command
