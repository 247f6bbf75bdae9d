import Gradebook.Store.Basic

/-! Stored subjects and the links between students and subjects. A subject is stored once per code, under
the name it came with first. Trying to store a known code again changes no row but uses up an id. -/

namespace Gradebook

/-- A stored subject as the rest of the library sees it. -/
def StoredSubject.toSubject (row : StoredSubject) : Subject := ⟨some row.id, row.code, row.name⟩

namespace Store

def storedSubject? (s : Store) (id : Int) : Option StoredSubject := s.subjects.find? (·.id == id)

def subjectById (id : Int) (s : Store) : Except Error Subject :=
  match s.storedSubject? id with
  | some row => .ok row.toSubject
  | none => .error (.notFound ("subject " ++ toString id))

def subjectByCode (code : String) (s : Store) : Except Error Subject :=
  match s.subjects.find? (·.code == code) with
  | some row => .ok row.toSubject
  | none => .error (.notFound ("subject with code " ++ Text.quoted code))

/-- The oldest subject of a name; names need not be unique. -/
def subjectByName (name : String) (s : Store) : Except Error Subject :=
  match s.subjects.find? (·.name == name) with
  | some row => .ok row.toSubject
  | none => .error (.notFound ("subject named " ++ Text.quoted name))

/-- The stored subject that is meant: by id, else by code, else by name. -/
def resolveSubject (subject : Subject) (s : Store) : Except Error Subject :=
  match subject.id with
  | some id => subjectById id s
  | none =>
    if !subject.code.isEmpty then subjectByCode subject.code s
    else if !subject.name.isEmpty then subjectByName subject.name s
    else .error (.validation "subject has no id, code or name")

/-- Stores a subject unless its code is known. Either way an id is used up. -/
def insertSubject (code name : String) (s : Store) : Store :=
  let id := s.lastSubjectId + 1
  if s.subjects.any (·.code == code) then { s with lastSubjectId := id }
  else { s with subjects := s.subjects ++ [⟨id, code, name⟩], lastSubjectId := id }

/-- The stored subject of a subject's code, which is stored first if need be. -/
def upsertSubject (subject : Subject) : Action Subject :=
  if subject.code.isEmpty then
    .fail (.validation ("subject " ++ Text.quoted subject.name ++ " has no engage code"))
  else do
    .change (insertSubject subject.code subject.name)
    .reading (subjectByCode subject.code)

/-- The subjects that a student takes, oldest first. -/
def subjectsOf (pid : PupilId) (s : Store) : List Subject :=
  (s.subjects.filter fun row => s.links.contains ⟨pid, row.id⟩).map (·.toSubject)

def hasStudent (s : Store) (pid : PupilId) : Bool := s.students.any (·.pid == pid)

def hasSubject (s : Store) (id : Int) : Bool := s.subjects.any (·.id == id)

/-- Links a student to a subject, and tells whether the link is new. -/
def link (pid : PupilId) (subjectId : Int) : Action Bool := fun s =>
  if s.links.contains ⟨pid, subjectId⟩ then (.ok false, s)
  else if s.hasStudent pid && s.hasSubject subjectId then
    (.ok true, { s with links := s.links ++ [⟨pid, subjectId⟩] })
  else (.error .brokenReference, s)

/-- Stores a subject if need be and links a student to it. -/
def enroll (pid : PupilId) (subject : Subject) : Action Unit := do
  let stored ← upsertSubject subject
  match stored.id with
  | some id => do
    let _ ← link pid id
    pure ()
  | none => pure ()

end Store

end Gradebook
