import StudyGuide.Bytes.Legible
import StudyGuide.Command.Execution
import StudyGuide.Compilation
import StudyGuide.Guide.Report
import StudyGuide.Main
import StudyGuide.Pdf
import StudyGuide.Proofs.Credits.Payment
import StudyGuide.Proofs.Credits.Sharing
import StudyGuide.Proofs.Inputs.Attempts
import StudyGuide.Proofs.Inputs.Order
import StudyGuide.Proofs.Pages.PrintedText
import StudyGuide.Proofs.Sanitizer.CleanText
import StudyGuide.Proofs.Text.Casing
import StudyGuide.Proofs.Text.Lines
import StudyGuide.Run
import StudyGuide.Proofs.Compilation.TagGrammar
import StudyGuide.Proofs.Compilation.CleanedLines
import StudyGuide.Proofs.Compilation.WrittenDocument
import StudyGuide.Proofs.Pages.BottomMargin
import StudyGuide.Proofs.Inputs.Base64
import StudyGuide.Proofs.Inputs.CompletionOrder
import StudyGuide.Proofs.Compilation.Content
import StudyGuide.Proofs.Compilation.FencedAnswer
import StudyGuide.Proofs.Compilation.InvisibleCharacters
import StudyGuide.Proofs.Lengths.Rounding
import StudyGuide.Proofs.Lengths.Subtraction
import StudyGuide.Proofs.Pages.KeptHeadings
import StudyGuide.Proofs.Compilation.SeparateLines
import StudyGuide.Proofs.Pages.PageCount
import StudyGuide.Proofs.Pages.FilledPages
import StudyGuide.Proofs.Pages.AppendedContent
import StudyGuide.Proofs.Runs.Events
import StudyGuide.Proofs.Wrapping.Greedy
import StudyGuide.Proofs.Wrapping.Stability
import StudyGuide.Proofs.Inputs.Retries
import StudyGuide.Proofs.Sanitizer.Markers
import StudyGuide.Proofs.Lengths.Multiples
import StudyGuide.Proofs.Pages.KeptCaptions
import StudyGuide.Proofs.Pages.Frames
import StudyGuide.Proofs.Pages.BlockFrames
import StudyGuide.Proofs.Pages.Backgrounds
import StudyGuide.Proofs.Pages.DrawnText
import StudyGuide.Proofs.Inputs.MediaTypes
import StudyGuide.Proofs.Files.Locations
import StudyGuide.Proofs.Files.Paths
import StudyGuide.Proofs.Files.Targets
import StudyGuide.Proofs.Files.ChosenPlace
import StudyGuide.Proofs.Files.Replacement
import StudyGuide.Proofs.Documents.KindCounts
