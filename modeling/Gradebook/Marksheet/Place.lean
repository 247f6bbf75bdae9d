import Gradebook.Fault
import Gradebook.Text.Blank
import Gradebook.Text.Digit
import Gradebook.Text.Numeral
import Gradebook.Text.Quoted
import Gradebook.Text.Split

/-! Places in a marksheet. A marksheet is an opaque text that the portal renders; a place in it is the
number of bytes before it, in UTF-8, so that a reader can stop and resume. Every reader here works on
the characters from a place on and is told the offset of that place. -/

namespace Gradebook.Marksheet

inductive Error where
  | notFound (what : String)
  | layout (offset : Nat) (detail : String)
  | badPercentage (raw : String)
  deriving DecidableEq, Repr

namespace Error

def message : Error → String
  | .notFound what => "couldnt match any " ++ what ++ " from current render"
  | .layout offset detail =>
    "unexpected render layout at offset " ++ toString offset ++ ": " ++ detail
  | .badPercentage raw => "render percentage " ++ raw ++ " outside [0, 100]"

def kind : Error → Fault.Kind
  | .notFound _ => .notFound
  | .layout _ _ => .internal
  | .badPercentage _ => .invalid

def fault (e : Error) : Fault := ⟨e.kind, e.message⟩

end Error

/-- The number of bytes of some characters. -/
def width : List Char → Nat
  | [] => 0
  | c :: cs => c.utf8Size + width cs

/-- The characters from a byte offset on, if a character starts there or the text ends there. -/
def dropBytes : Nat → List Char → Option (List Char)
  | 0, cs => some cs
  | _ + 1, [] => none
  | n + 1, c :: cs => if c.utf8Size ≤ n + 1 then dropBytes (n + 1 - c.utf8Size) cs else none

/-- A run of digits of any script at the start of the characters, and what follows it. -/
def digitRun? (cs : List Char) : Option (List Char × List Char) :=
  match cs.takeWhile Text.isDigitOfAnyScript with
  | [] => none
  | digits => some (digits, cs.dropWhile Text.isDigitOfAnyScript)

end Gradebook.Marksheet
