import StudyGuide.FileStore
import StudyGuide.GuideError

/-!
A failure of the command: what was being done, and the causes from the nearest to the deepest.
-/

set_option autoImplicit false
set_option relaxedAutoImplicit false

namespace StudyGuide.Command

structure Failure where
  context : Text
  causes : List Text
deriving DecidableEq, Repr

namespace Failure

/-- A file that could not be read or written. -/
def ofFile (doing path : Text) (fault : FileFault) : Failure where
  context := doing ++ " " ++ Text.Quoted.encode path
  causes := [fault.message]

/-- An error of a guide; behind a write that failed stands the fault of the file. -/
def ofError (context : Text) (error : GuideError) : Failure where
  context
  causes := error.message ::
    match error with
    | .outputWriteFailed _ cause => [cause]
    | _ => []

/-- The lines of a cause, the first one after a mark and the others as far from the edge. -/
def indented (mark : Text) (cause : Text) : Text :=
  mark ++ Text.joinWith ('\n' :: List.replicate mark.length ' ') (Text.splitAt '\n' cause)

/-- Several causes are numbered. -/
def causeLines : List Text → List Text
  | [] => []
  | [cause] => [indented "    " cause]
  | causes => causes.zipIdx.map fun (cause, index) ↦
      indented ((Text.ofNat index).leftpad 5 ' ' ++ ": ") cause

def report (failure : Failure) : Text :=
  "Error: " ++ failure.context ++
    (match causeLines failure.causes with
      | [] => []
      | lines => "\n\nCaused by:\n" ++ Text.joinLines lines) ++ ['\n']

end Failure

end StudyGuide.Command
