/-! Faults, the errors that cross the borders between the parts of the library. A fault has a kind, which
tells a caller what to do about it, and a message for people. Kinds correspond to HTTP statuses in
both directions; a status without a kind of its own is an internal fault. -/

namespace Gradebook

namespace Fault

inductive Kind where
  | conflict
  | internal
  | invalid
  | notFound
  | notImplemented
  | unauthorized
  deriving DecidableEq, Repr

namespace Kind

def all : List Kind := [.conflict, .internal, .invalid, .notFound, .notImplemented, .unauthorized]

/-- The HTTP status that stands for a kind. -/
def status : Kind → Nat
  | .conflict => 409
  | .internal => 500
  | .invalid => 400
  | .notFound => 404
  | .notImplemented => 501
  | .unauthorized => 401

/-- The kind that an HTTP status stands for. -/
def ofStatus (code : Nat) : Kind :=
  (all.find? fun kind => kind.status == code).getD .internal

def word : Kind → String
  | .conflict => "conflict"
  | .internal => "internal"
  | .invalid => "invalid"
  | .notFound => "not_found"
  | .notImplemented => "not_implemented"
  | .unauthorized => "unauthorized"

def ofWord? (s : String) : Option Kind := all.find? fun kind => kind.word == s

end Kind

end Fault

/-- A failure with its kind and a message. -/
structure Fault where
  kind : Fault.Kind
  message : String
  deriving DecidableEq, Repr

namespace Fault

def conflict (message : String) : Fault := ⟨.conflict, message⟩
def internal (message : String) : Fault := ⟨.internal, message⟩
def invalid (message : String) : Fault := ⟨.invalid, message⟩
def notFound (message : String) : Fault := ⟨.notFound, message⟩
def notImplemented (message : String) : Fault := ⟨.notImplemented, message⟩
def unauthorized (message : String) : Fault := ⟨.unauthorized, message⟩

/-- The fault of an activity that was asked to stop. -/
def cancelled (what : String) : Fault := internal (what ++ ": operation cancelled")

/-- The same fault, told within a wider activity. -/
def within (context : String) (f : Fault) : Fault := ⟨f.kind, context ++ ": " ++ f.message⟩

def isNotFound (f : Fault) : Bool := f.kind == .notFound

def text (f : Fault) : String := f.kind.word ++ ": " ++ f.message

end Fault

end Gradebook
