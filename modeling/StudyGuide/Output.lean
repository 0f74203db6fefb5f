import StudyGuide.FileStore.Replace
import StudyGuide.GuideError

/-!
Where a guide is written, and the writing. What the user asks for is a file if it ends in the
extension of guides and is no directory; otherwise it is the directory of a file that is named
after the guide.
-/

set_option autoImplicit false
set_option relaxedAutoImplicit false

namespace StudyGuide.Output

def isPdfPath (path : Text) : Bool :=
  (FilePath.extension? path).map Text.asciiLower == some "pdf".toList

/-- The path of a guide; `isDirectory` says whether a directory stands at `output`. -/
def pathFor (isDirectory : Bool) (output fileName : Text) : Text :=
  if isDirectory || !isPdfPath output then FilePath.join output fileName else output

def path (store : FileStore) (output fileName : Text) : Text :=
  pathFor (store.isDirectory output) output fileName

/-- Writes a file, all of it or nothing. -/
def write (store : FileStore) (obstacle : Option Obstacle) (path : Text) (content : Bytes) :
    FileStore × Except GuideError Unit :=
  match store.replaceFile obstacle path content with
  | (store, none) => (store, .ok ())
  | (store, some fault) => (store, .error (.outputWriteFailed path fault.message))

end StudyGuide.Output
