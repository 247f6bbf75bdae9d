import Gradebook.Json.Value

/-! Taking typed values out of JSON. A record is an object, whose members are found by name, or an array,
whose elements are its members in order. Members that a record does not know are skipped; a known
name that is written twice is refused. -/

namespace Gradebook.Json

/-- Why a JSON text or value is not what was wanted. -/
inductive Flaw where
  | malformed
  | mismatch (wanted : String)
  | missing (name : String)
  | repeated (name : String)
  | surplus
  deriving DecidableEq, Repr

def Flaw.message : Flaw → String
  | .malformed => "malformed JSON"
  | .mismatch wanted => "expected " ++ wanted
  | .missing name => "missing member " ++ name
  | .repeated name => "repeated member " ++ name
  | .surplus => "more elements than members"

def toInteger (low high : Int) : Json → Except Flaw Int
  | .int n => if low ≤ n ∧ n ≤ high then .ok n else .error (.mismatch "an integer in range")
  | _ => .error (.mismatch "an integer")

def toInt32 (j : Json) : Except Flaw Int32 :=
  (toInteger Int32.minValue.toInt Int32.maxValue.toInt j).map Int32.ofInt

def toInt64 (j : Json) : Except Flaw Int64 :=
  (toInteger Int64.minValue.toInt Int64.maxValue.toInt j).map Int64.ofInt

/-- An integer that fits 64 signed bits. -/
def toWideInt (j : Json) : Except Flaw Int :=
  toInteger Int64.minValue.toInt Int64.maxValue.toInt j

def toUInt32 (j : Json) : Except Flaw UInt32 :=
  (toInteger 0 (UInt32.size - 1) j).map fun n => UInt32.ofNat n.toNat

def toUInt8 (j : Json) : Except Flaw UInt8 :=
  (toInteger 0 (UInt8.size - 1) j).map fun n => UInt8.ofNat n.toNat

def toBool : Json → Except Flaw Bool
  | .bool b => .ok b
  | _ => .error (.mismatch "a boolean")

def toText : Json → Except Flaw String
  | .str s => .ok s
  | _ => .error (.mismatch "a string")

def toOption {α : Type} (decode : Json → Except Flaw α) : Json → Except Flaw (Option α)
  | .null => .ok none
  | j => (decode j).map some

def toList {α : Type} (decode : Json → Except Flaw α) : Json → Except Flaw (List α)
  | .arr elements => elements.mapM decode
  | _ => .error (.mismatch "an array")

/-- A word of a fixed list: a string, or an object whose one member has that name and is null. -/
def toWord {α : Type} (read : String → Option α) : Json → Except Flaw α
  | .str s => match read s with
    | some x => .ok x
    | none => .error (.mismatch "a known word")
  | .obj [(name, .null)] => match read name with
    | some x => .ok x
    | none => .error (.mismatch "a known word")
  | _ => .error (.mismatch "a word")

/-- The members of a record, and whether they were given by position. -/
structure Record where
  members : List (String × Json)
  byPosition : Bool

/-- The first of the names that occurs more than once among the members. -/
def repeatedName? (names : List String) (members : List (String × Json)) : Option String :=
  names.find? fun name => decide (1 < (members.filter (·.1 == name)).length)

/-- Sees a value as a record with the given member names. -/
def toRecord (names : List String) : Json → Except Flaw Record
  | .obj members =>
    match repeatedName? names members with
    | some name => .error (.repeated name)
    | none => .ok ⟨members, false⟩
  | .arr elements =>
    if names.length < elements.length then .error .surplus else .ok ⟨names.zip elements, true⟩
  | _ => .error (.mismatch "a record")

namespace Record

def required {α : Type} (r : Record) (name : String) (decode : Json → Except Flaw α) : Except Flaw α :=
  match r.members.lookup name with
  | some j => decode j
  | none => .error (.missing name)

/-- A member with a value of its own when it is left out. -/
def withDefault {α : Type} (r : Record) (name : String) (default : α)
    (decode : Json → Except Flaw α) : Except Flaw α :=
  match r.members.lookup name with
  | some j => decode j
  | none => .ok default

/-- A member that may be null or left out. -/
def optional {α : Type} (r : Record) (name : String) (decode : Json → Except Flaw α) :
    Except Flaw (Option α) :=
  r.withDefault name none (toOption decode)

/-- A member that may be null, or left out by name; by position it has to be there. -/
def optionalByName {α : Type} (r : Record) (name : String) (decode : Json → Except Flaw α) :
    Except Flaw (Option α) :=
  if r.byPosition then r.required name (toOption decode) else r.optional name decode

end Record

end Gradebook.Json
