import Gradebook.Period
import Gradebook.Timestamp

/-! The school calendar. Every academic year has the same terms and every term the same columns, so the
full periods are ordered by year, then term, then the place of the column in the list. A partial
period stands for all the full periods inside it, and a range of periods for all that lie between
the first of its start and the last of its end. -/

namespace Gradebook

/-- The columns of every term, in order. -/
structure Calendar where
  columns : List String
  deriving DecidableEq, Repr

namespace Calendar

/-- The calendar of a school that says nothing else. -/
def standard : Calendar := ⟨["Test", "Exam"]⟩

inductive Defect where
  | unknownColumn (column : String) (period : Period)
  | reversed (first last : Period)
  | noTerm (period : Period)
  deriving DecidableEq, Repr

def Defect.message : Defect → String
  | .unknownColumn column period =>
    "unknown importance " ++ Text.quoted column ++ " in " ++ period.text
  | .reversed first last =>
    "period range starts after it ends: " ++ first.text ++ " > " ++ last.text
  | .noTerm period => "period " ++ period.text ++ " has no term"

def Defect.fault (defect : Defect) : Fault := .invalid defect.message

/-- The place of a full period in the order of the calendar. -/
structure Key where
  year : Int
  term : Nat
  position : Nat
  deriving DecidableEq, Repr

namespace Key

/-- Year first, then term, then position. -/
def le (a b : Key) : Bool :=
  decide (a.year < b.year) || (decide (a.year = b.year) &&
    (decide (a.term < b.term) || (decide (a.term = b.term) && decide (a.position ≤ b.position))))

end Key

/-- The place of the period's column among the columns: its first place if the list repeats it, and none
for a period without a column. -/
def position (calendar : Calendar) (p : Period) : Except Defect (Option Nat) :=
  match p.column with
  | none => .ok none
  | some column =>
    match calendar.columns.findIdx? (· == column) with
    | some place => .ok (some place)
    | none => .error (.unknownColumn column p)

def firstKey (calendar : Calendar) (p : Period) : Except Defect Key := do
  let place ← calendar.position p
  pure ⟨p.academicYear.toInt, (p.term.getD .autumn).rank, place.getD 0⟩

def lastKey (calendar : Calendar) (p : Period) : Except Defect Key := do
  let place ← calendar.position p
  pure ⟨p.academicYear.toInt, (p.term.getD .summer).rank, place.getD (calendar.columns.length - 1)⟩

/-- The full periods of some terms of a year. -/
def periodsOf (calendar : Calendar) (year : Year) (terms : List Term) : List Period :=
  terms.flatMap fun term => calendar.columns.map fun column => Period.full year term column

/-- The full periods of a year, or of one of its terms. -/
def build (calendar : Calendar) (year : Year) (term : Option Term) : List Period :=
  calendar.periodsOf year (match term with
    | some term => [term]
    | none => Term.all)

def yearsBetween (first last : Year) : List Year :=
  (List.range (last.toInt - first.toInt + 1).toNat).map fun (i : Nat) => Int32.ofInt (first.toInt + i)

/-- The full periods of one year with their keys. -/
def keyedPeriods (calendar : Calendar) (year : Year) : List (Key × Period) :=
  Term.all.flatMap fun term =>
    calendar.columns.zipIdx.map fun (column, place) =>
      (⟨year.toInt, term.rank, place⟩, Period.full year term column)

/-- The full periods from the first inside `first` to the last inside `last`. -/
def range (calendar : Calendar) (first last : Period) : Except Defect (List Period) := do
  let lower ← calendar.firstKey first
  let upper ← calendar.lastKey last
  if lower.le upper then
    let keyed := (yearsBetween first.academicYear last.academicYear).flatMap calendar.keyedPeriods
    pure ((keyed.filter fun (key, _) => lower.le key && key.le upper).map (·.2))
  else throw (.reversed first last)

/-- The portal's name for the term of a period. -/
def termLabel (p : Period) : Except Defect String :=
  match p.term with
  | some term => .ok term.label
  | none => .error (.noTerm p)

end Calendar

/-- The academic year that holds a date: a new one starts in September. -/
def academicYearOn (date : Timestamp.Date) : Int :=
  if 9 ≤ date.month then date.year else date.year - 1

/-- The academic year that holds a moment. -/
def academicYearAt (moment : Timestamp) : Year :=
  Int32.ofInt (academicYearOn (.ofDays (moment.second.fdiv 86400)))

end Gradebook
