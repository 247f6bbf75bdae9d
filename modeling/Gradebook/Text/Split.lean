/-! Cutting texts at a separator and joining them again. -/

namespace Gradebook.Text

/-- The characters before the first `sep` and, if there is one, those after it. -/
def cutAt (sep : Char) : List Char → List Char × Option (List Char)
  | [] => ([], none)
  | c :: rest =>
    if c = sep then ([], some rest)
    else
      let (head, tail) := cutAt sep rest
      (c :: head, tail)

/-- The pieces between separators: one more than there are separators. -/
def splitChars (sep : Char) : List Char → List (List Char)
  | [] => [[]]
  | c :: rest =>
    if c = sep then [] :: splitChars sep rest
    else
      match splitChars sep rest with
      | piece :: pieces => (c :: piece) :: pieces
      | [] => [[c]]

/-- The texts one after the other with `sep` between them. -/
def joinWith (sep : String) (texts : List String) : String := sep.intercalate texts

end Gradebook.Text
