import Gradebook.Identifier
import Gradebook.Percentage
import Gradebook.Period
import Gradebook.Timestamp

/-! Students, their subjects and their marks, and the rules that each must meet before it is stored. An
attending student has a current year and one who does not attend has none. A new mark carries no id,
a full period and the name of its subject. -/

namespace Gradebook

/-- A subject: the portal knows it by its code, the store by its id, a marksheet by its name. -/
structure Subject where
  id : Option Int := none
  code : String := ""
  name : String := ""
  deriving DecidableEq, Repr

/-- A mark that a pupil got in a subject during a period. -/
structure Mark where
  id : Option Int := none
  pid : PupilId
  subject : Subject
  teacher : String
  percentage : Percentage
  period : Period
  createdAt : Option Timestamp := none
  deriving DecidableEq, Repr

/-- A pupil of the school. -/
structure Student where
  pid : PupilId
  name : String
  currentYear : Option Int32 := none
  attends : Bool := false
  subjects : List Subject := []
  marks : List Mark := []
  createdAt : Option Timestamp := none
  updatedAt : Option Timestamp := none
  deriving DecidableEq, Repr

namespace Student

inductive Defect where
  | badId (pid : PupilId)
  | noName
  | yearMissing
  | yearSurplus
  deriving DecidableEq, Repr

def Defect.message : Defect → String
  | .badId pid => "invalid pupil id: " ++ pid.text
  | .noName => "student name is required"
  | .yearMissing => "attending student requires a current year"
  | .yearSurplus => "current year is only valid for attending students"

def Defect.fault (defect : Defect) : Fault := .invalid defect.message

/-- The first rule that a student breaks. -/
def validate (s : Student) : Except Defect Unit :=
  if s.pid.toInt ≤ 0 then .error (.badId s.pid)
  else if Text.isBlankText s.name then .error .noName
  else if s.attends && s.currentYear.isNone then .error .yearMissing
  else if !s.attends && s.currentYear.isSome then .error .yearSurplus
  else .ok ()

end Student

namespace Mark

inductive Defect where
  | alreadyStored
  | periodNotFull (period : Period)
  | noSubjectName
  deriving DecidableEq, Repr

def Defect.message : Defect → String
  | .alreadyStored => "mark already persisted"
  | .periodNotFull period => "mark period " ++ period.text ++ " is not a full period"
  | .noSubjectName => "mark subject name is required"

def Defect.fault (defect : Defect) : Fault := .invalid defect.message

/-- The first rule that a new mark breaks. -/
def validate (m : Mark) : Except Defect Unit :=
  if m.id.isSome then .error .alreadyStored
  else if !m.period.isFull then .error (.periodNotFull m.period)
  else if Text.isBlankText m.subject.name then .error .noSubjectName
  else .ok ()

/-- The marks of a list whose subject name occurs neither among the known ones nor earlier in
the list. -/
def additionsTo (known : List String) : List Mark → List Mark
  | [] => []
  | m :: rest =>
    if m.subject.name ∈ known then additionsTo known rest
    else m :: additionsTo (m.subject.name :: known) rest

/-- The first mark of every subject name that the stored marks lack. Marks of one pupil and period are
the same mark when their subject names agree. -/
def additions (stored shown : List Mark) : List Mark :=
  additionsTo (stored.map fun m => m.subject.name) shown

end Mark

/-- Which students to look for; a part that is not set does not constrain. -/
structure StudentFilter where
  pid : Option PupilId := none
  year : Option Int32 := none
  attends : Option Bool := none
  subjectId : Option Int := none
  offset : Option Int := none
  limit : Option Int := none
  deriving DecidableEq, Repr

/-- Which marks to look for; a part that is not set does not constrain, and no periods means any period. -/
structure MarksFilter where
  id : Option Int := none
  pid : Option PupilId := none
  subjectId : Option Int := none
  periods : List Period := []
  offset : Option Int := none
  limit : Option Int := none
  deriving DecidableEq, Repr

end Gradebook
