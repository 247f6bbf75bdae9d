import Gradebook.Fault
import Gradebook.Text.Blank
import Gradebook.Text.Lowercase
import Gradebook.Text.Numeral
import Gradebook.Text.Quoted
import Gradebook.Text.Split

/-! Grading periods. A period names an academic year, perhaps one of its terms, and perhaps one column of
the marksheet. With all three it is full: one closed column of marks. A period contains another that
agrees with it wherever it says something. Periods are written as `YEAR/TERM/COLUMN`. -/

namespace Gradebook

/-- The calendar year in which an academic year starts. -/
abbrev Year := Int32

/-- The terms of an academic year, in the order of the calendar. -/
inductive Term where
  | autumn
  | spring
  | summer
  deriving DecidableEq, Repr

structure Period where
  academicYear : Year
  term : Option Term := none
  column : Option String := none
  deriving DecidableEq, Repr

namespace Term

def all : List Term := [.autumn, .spring, .summer]

def rank : Term → Nat
  | .autumn => 0
  | .spring => 1
  | .summer => 2

def word : Term → String
  | .autumn => "autumn"
  | .spring => "spring"
  | .summer => "summer"

def ofWord? (s : String) : Option Term := all.find? fun term => term.word == s

/-- The name that the portal gives to a term. -/
def label : Term → String
  | .autumn => "Autumn Term"
  | .spring => "Spring Term"
  | .summer => "Summer Term"

end Term

namespace Period

inductive Defect where
  | badYear (text : String) (flaw : Text.NumeralFlaw)
  | unknownTerm (word : String)
  deriving DecidableEq, Repr

def Defect.message : Defect → String
  | .badYear text flaw => "invalid academic year in " ++ Text.quoted text ++ ": " ++ flaw.message
  | .unknownTerm word => "unknown term: " ++ word

/-- A text that names no period is a caller's mistake. -/
def Defect.fault (defect : Defect) : Fault := .invalid defect.message

def ofYear (year : Year) : Period := ⟨year, none, none⟩

/-- One column of one term. -/
def full (year : Year) (term : Term) (column : String) : Period := ⟨year, some term, some column⟩

/-- Whether the period is one closed column of marks. -/
def isFull (p : Period) : Bool := p.term.isSome && p.column.isSome

/-- Whether the other period lies within this one. -/
def contains (outer inner : Period) : Bool :=
  outer.academicYear == inner.academicYear
    && (outer.term.isNone || outer.term == inner.term)
    && (outer.column.isNone || outer.column == inner.column)

/-- A part after a slash, nothing for a part that is not set. -/
def slashed : Option String → String
  | some part => "/" ++ part
  | none => ""

def text (p : Period) : String :=
  toString p.academicYear.toInt ++ slashed (p.term.map Term.word) ++ slashed p.column

end Period

/-- Reads the name of a term, in any case and with blanks around it. -/
def Term.parse (s : String) : Except Period.Defect Term :=
  let word := Text.lowercase (Text.trim s)
  match Term.ofWord? word with
  | some term => .ok term
  | none => .error (.unknownTerm word)

namespace Period

/-- The column that a written part names: none when the part is blank. -/
def columnOf? (part : List Char) : Option String :=
  let name := Text.trimChars part
  if name.isEmpty then none else some (String.ofList name)

/-- Reads a period. The text is cut at its first two slashes, so that a column may hold slashes; the year
takes no blanks of its own. -/
def parse (s : String) : Except Defect Period := do
  let (first, rest) := Text.cutAt '/' (Text.trimChars s.toList)
  let year ← match Text.readInt32 (String.ofList first) with
    | .ok year => pure year
    | .error flaw => throw (.badYear s flaw)
  match rest with
  | none => pure ⟨year, none, none⟩
  | some rest =>
    let (second, third) := Text.cutAt '/' rest
    let term ← Term.parse (String.ofList second)
    pure ⟨year, some term, third.bind columnOf?⟩

end Period

end Gradebook
