/-! Sets of characters given by ranges of code points. The tables of Unicode properties in this folder
are lists of such ranges in ascending order, and membership is a plain search of the list. -/

namespace Gradebook.Text

/-- The code points from the first to the second number, both included. -/
abbrev CharRange := Nat × Nat

namespace CharRange

/-- Whether a code point lies in the range. -/
def covers (range : CharRange) (code : Nat) : Bool :=
  decide (range.1 ≤ code) && decide (code ≤ range.2)

end CharRange

/-- Whether some range of the table covers the character. -/
def inTable (table : List CharRange) (c : Char) : Bool :=
  table.any (·.covers c.toNat)

end Gradebook.Text
