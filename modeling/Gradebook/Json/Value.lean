/-! JSON values. Members of an object stay in the order in which they were written, repeated names
included: which repetition a record refuses is the record's business. -/

namespace Gradebook

/-- A JSON value. Integers are exact. Every other number, minus zero among them, is a coefficient and a
power of ten. A `garbled` value is grammatical but holds half of a surrogate pair, so it stands for no
text; it can be skipped and not be read. -/
inductive Json where
  | null
  | bool (value : Bool)
  | int (value : Int)
  | decimal (coefficient exponent : Int)
  | str (text : String)
  | garbled
  | arr (elements : List Json)
  | obj (members : List (String × Json))
  deriving Inhabited, Repr

namespace Json

def list {α : Type} (encode : α → Json) (xs : List α) : Json := .arr (xs.map encode)

def nullable {α : Type} (encode : α → Json) : Option α → Json
  | some x => encode x
  | none => .null

/-- A member that is left out when there is no value. -/
def memberIfSome {α : Type} (name : String) (encode : α → Json) : Option α → List (String × Json)
  | some x => [(name, encode x)]
  | none => []

/-- The value of an object's first member of a name. -/
def member? (name : String) : Json → Option Json
  | .obj members => members.lookup name
  | _ => none

end Json

end Gradebook
