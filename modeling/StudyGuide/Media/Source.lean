import StudyGuide.Text.Basic

/-!
Where an input comes from: an address on the web, or a path of a file.
-/

set_option autoImplicit false
set_option relaxedAutoImplicit false

namespace StudyGuide

namespace Source

def isUrl (source : Text) : Bool :=
  Text.startsWith source "http://" || Text.startsWith source "https://"

/-- The path of a source: an address without its query and fragment. -/
def path (source : Text) : Text :=
  if isUrl source then source.takeWhile fun c ↦ c != '?' && c != '#' else source

end Source

namespace FilePath

/-- The names of a path. Empty names count for nothing, nor does a dot, except that a path may
begin with one. -/
def names (path : Text) : List Text :=
  match Text.splitAt '/' path with
  | [] => []
  | first :: rest =>
    let rest := rest.filter fun name ↦ name != [] && name != ['.']
    if first = [] then rest else first :: rest

def isAbsolute (path : Text) : Bool := Text.startsWith path ['/']

/-- The last name of a path, unless the path ends in a step that names nothing. -/
def fileName? (path : Text) : Option Text :=
  match (names path).getLast? with
  | none => none
  | some name => if name = ['.'] ∨ name = ['.', '.'] then none else some name

/-- What follows the last dot of a file name; a dot at its front begins no extension. -/
def extension? (path : Text) : Option Text :=
  (fileName? path).bind fun name ↦
    let after := name.reverse.takeWhile (· != '.')
    match name.reverse.drop after.length with
    | [] | [_] => none
    | _ => some after.reverse

/-- A path inside a directory; an absolute path stands for itself. -/
def join (directory path : Text) : Text :=
  if isAbsolute path then path
  else match directory.getLast? with
    | none | some '/' => directory ++ path
    | some _ => directory ++ '/' :: path

/-- A piece of a path that is no step. -/
def namesNothing (piece : Text) : Bool := piece == [] || piece == ['.']

/-- The path of the directory that the last name of a path stands in, as it is given; what names
nothing at its end is dropped. -/
def directory (path : Text) : Text :=
  let pieces := (Text.splitAt '/' path).reverse.dropWhile namesNothing
  let above := (pieces.drop 1).dropWhile namesNothing
  if above ≠ [] then Text.joinWith ['/'] above.reverse
  else if pieces ≠ [] ∧ isAbsolute path then ['/']
  else ['.']

end FilePath

end StudyGuide
