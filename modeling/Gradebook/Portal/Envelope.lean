import Gradebook.Json.Record
import Gradebook.Portal.Responder
import Gradebook.Wire.School

/-! The JSON bodies of the portal. A question is a flat object whose lists are joined by commas, and empty
parts of it are left out; the question for a marksheet always has all its parts. An answer wraps its
entries in an array named `d`. -/

namespace Gradebook.Portal

open Json

/-- What stands between the columns of a marksheet question. -/
def betweenColumns : String := "|||"

def yearList (years : List Year) : String :=
  Text.joinWith "," (years.map fun year => toString year.toInt)

def subjectList (subjects : List Subject) : String := Text.joinWith "," (subjects.map (·.code))

structure Question where
  text : String := ""
  numberOfItems : UInt32 := 0
  years : String := ""
  periods : String := ""
  yearGroups : String := ""
  subjects : String := ""
  divisions : String := ""
  batches : String := ""
  pupils : String
  deriving DecidableEq, Repr

namespace Question

def forPupil (pid : PupilId) : Question := { pupils := pid.text }

def ofYears (q : Question) (years : List Year) : Question := { q with years := yearList years }

def ofPeriods (q : Question) (periods : List String) : Question :=
  { q with periods := Text.joinWith "," periods }

def ofSubjects (q : Question) (subjects : List Subject) : Question :=
  { q with subjects := subjectList subjects }

/-- A member that is left out when its text is empty. -/
def memberIfAny (name value : String) : List (String × Json) :=
  if value.isEmpty then [] else [(name, .str value)]

def toJson (q : Question) : Json :=
  .obj (memberIfAny "Text" q.text
    ++ (if q.numberOfItems = 0 then [] else [("NumberOfItems", .int q.numberOfItems.toNat)])
    ++ memberIfAny "academicYears" q.years
    ++ memberIfAny "reportingPeriods" q.periods
    ++ memberIfAny "yearGroupList" q.yearGroups
    ++ memberIfAny "subjectList" q.subjects
    ++ memberIfAny "divisionList" q.divisions
    ++ memberIfAny "batchList" q.batches
    ++ [("pupilIDs", .str q.pupils)])

end Question

def MarksheetQuery.toJson (pid : PupilId) (q : MarksheetQuery) : Json :=
  .obj [("academicYear", .str (yearList q.years)),
    ("reportingPeriodList", .str (Text.joinWith "," q.periods)),
    ("yearGroupList", .str ""),
    ("subjectList", .str (subjectList q.subjects)),
    ("divisionList", .str ""),
    ("batchList", .str ""),
    ("columnList", .str (Text.joinWith betweenColumns q.columns)),
    ("pupilIDs", .str pid.text),
    ("uniqueID", .str "Portal_PupilDetails"),
    ("setAsPreference", .bool true),
    ("defaultReportingPeriod", .str ""),
    ("pageIndex", .str "0"),
    ("sortField", .str "Surname"),
    ("sortDirection", .str "ASC"),
    ("sortable", .bool true),
    ("showPupilName", .bool true),
    ("allowCollapseMarksheetColumns", .str "true"),
    ("enableFrozenHeadings", .bool false),
    ("filterSearch", .bool true),
    ("page", .int 1),
    ("pageSize", .int 500)]

structure Item where
  typeName : String := ""
  text : String := ""
  value : String := ""
  enabled : Bool := false
  checked : Bool := false
  isReporting : Bool := false
  columnType : String := ""
  deriving DecidableEq, Repr

/-- The attributes of an entry: whether it is checked and reporting, and its column type. -/
def attributesOfJson (j : Json) : Except Flaw (Bool × Bool × String) := do
  let r ← toRecord ["Checked", "IsReporting", "ColumnType"] j
  pure (← r.withDefault "Checked" false toBool, ← r.withDefault "IsReporting" false toBool,
    ← r.withDefault "ColumnType" "" toText)

def Item.ofJson (j : Json) : Except Flaw Item := do
  let r ← toRecord ["__type", "Text", "Value", "Enabled", "Attributes"] j
  let typeName ← r.withDefault "__type" "" toText
  let text ← r.withDefault "Text" "" toText
  let value ← r.withDefault "Value" "" toText
  let enabled ← r.withDefault "Enabled" false toBool
  let (checked, isReporting, columnType) ←
    r.withDefault "Attributes" (false, false, "") attributesOfJson
  pure { typeName, text, value, enabled, checked, isReporting, columnType }

/-- The entries of an answer. -/
def envelopeOfJson {α : Type} (entry : Json → Except Flaw α) (j : Json) : Except Flaw (List α) := do
  let r ← toRecord ["d"] j
  r.withDefault "d" [] (toList entry)

structure ErrorBody where
  message : String
  stackTrace : String
  exceptionType : String
  deriving DecidableEq, Repr

def ErrorBody.ofJson (j : Json) : Except Flaw ErrorBody := do
  let r ← toRecord ["Message", "StackTrace", "ExceptionType"] j
  pure ⟨← r.withDefault "Message" "" toText, ← r.withDefault "StackTrace" "" toText,
    ← r.withDefault "ExceptionType" "" toText⟩

end Gradebook.Portal
