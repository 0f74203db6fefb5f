import StudyGuide.Text.Basic

/-!
Bytes of files, and texts as bytes in UTF-8.
-/

set_option autoImplicit false
set_option relaxedAutoImplicit false

namespace StudyGuide

abbrev Bytes := List UInt8

namespace Bytes

def ofText (text : Text) : Bytes := (String.ofList text).toUTF8.toList

/-- The text of bytes that are valid UTF-8. -/
def toText? (bytes : Bytes) : Option Text :=
  (String.fromUTF8? ⟨bytes.toArray⟩).map String.toList

def startsWith (bytes mark : Bytes) : Bool := mark.isPrefixOf bytes

/-- The bytes from `start` on begin with the mark. -/
def hasAt (bytes : Bytes) (start : Nat) (mark : Bytes) : Bool :=
  startsWith (bytes.drop start) mark

end Bytes

end StudyGuide
