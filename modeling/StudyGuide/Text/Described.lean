import StudyGuide.Text.Quoted

/-!
Descriptions of values: records by the names of their fields, lists in brackets, and whether an
optional value is there.
-/

set_option autoImplicit false
set_option relaxedAutoImplicit false

namespace StudyGuide.Text.Described

def list (items : List Text) : Text := '[' :: joinWith ", " items ++ [']']

def option (item : Option Text) : Text :=
  match item with
  | none => "None"
  | some item => "Some(" ++ item ++ [')']

def record (name : Text) (fields : List (Text × Text)) : Text :=
  name ++ " \x7b " ++ joinWith ", " (fields.map fun (key, value) ↦ key ++ ": " ++ value) ++
    " \x7d"

end StudyGuide.Text.Described
