import Gradebook.Text.Blank
import Gradebook.Text.Numeral

/-! Numbers by which things are known, as a person writes them: a 64-bit integer with blanks around it. A
text that is none is refused together with the name of what it should have identified. -/

namespace Gradebook

namespace Identifier

structure Defect where
  what : String
  flaw : Text.NumeralFlaw
  deriving DecidableEq, Repr

def Defect.message (d : Defect) : String := "Failed to parse " ++ d.what ++ ": " ++ d.flaw.message

def parse (what s : String) : Except Defect Int64 :=
  (Text.readInt64 (Text.trim s)).mapError (Defect.mk what)

end Identifier

/-- The number by which the school and the portal know a pupil. -/
abbrev PupilId := Int64

namespace PupilId

def text (pid : PupilId) : String := toString pid.toInt

def parse (s : String) : Except Identifier.Defect PupilId := Identifier.parse "Pid" s

def largest : Int := Int64.maxValue.toInt

/-- The number after a pupil's, if there is one. -/
def next? (pid : PupilId) : Option PupilId :=
  if pid.toInt < largest then some (Int64.ofInt (pid.toInt + 1)) else none

end PupilId

end Gradebook
