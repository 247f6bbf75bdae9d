import Gradebook.Marksheet.Entry

/-! A cursor over the entries of one marksheet. It moves past each entry it gives, and stays where it is at
the end and at an error, so that asking again gives the same answer. -/

namespace Gradebook.Marksheet

/-- A marksheet and the byte offset from which to read on. -/
structure Scanner where
  text : String
  offset : Nat
  deriving DecidableEq, Repr

namespace Scanner

def ofText (text : String) : Scanner := ⟨text, 0⟩

/-- The next entry with the offset past it, or nothing once no percentage is left. -/
def next (s : Scanner) : Except Error (Option (Entry × Nat)) × Scanner :=
  match entryAt s.text s.offset with
  | .ok (entry, resume) => (.ok (some (entry, resume)), ⟨s.text, resume⟩)
  | .error (.notFound _) => (.ok none, s)
  | .error e => (.error e, s)

end Scanner

end Gradebook.Marksheet
