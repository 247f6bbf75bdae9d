import Gradebook.Student

/-! Requests to bring the store in line with the portal, and the count of what a refresh did. A request for
pupils covers consecutive numbers and must not run past the largest one. -/

namespace Gradebook

/-- Refresh `count` pupils from `start` on; with `purge`, drop those who left the school. -/
structure RefreshStudents where
  start : PupilId
  count : UInt32
  purge : Bool := false
  deriving DecidableEq, Repr

/-- Refresh the marks of one pupil over a range of periods. -/
structure RefreshMarks where
  pid : PupilId
  first : Period
  last : Period
  deriving DecidableEq, Repr

/-- Consecutive pupil numbers that do not run past the largest. -/
structure PupilRange where
  start : PupilId
  count : Nat
  deriving DecidableEq, Repr

namespace PupilRange

def get (r : PupilRange) (i : Nat) : PupilId := Int64.ofInt (r.start.toInt + i)

/-- The first `k` numbers of the range, fewer if the range is shorter. -/
def take (r : PupilRange) (k : Nat) : List PupilId := (List.range (min k r.count)).map r.get

def toList (r : PupilRange) : List PupilId := r.take r.count

end PupilRange

namespace RefreshStudents

/-- The fault of a range that runs past the largest pupil number. -/
def tooFar (request : RefreshStudents) : Fault :=
  .invalid (toString request.count.toNat ++ " pids from " ++ request.start.text
    ++ " run past the largest pupil id")

def pupils (request : RefreshStudents) : Except Fault PupilRange :=
  if 0 < request.count.toNat ∧ PupilId.largest < request.start.toInt + (request.count.toNat - 1) then
    .error request.tooFar
  else .ok ⟨request.start, request.count.toNat⟩

end RefreshStudents

/-- How many records a refresh wrote or left alone. -/
structure Summary where
  created : UInt32 := 0
  updated : UInt32 := 0
  deleted : UInt32 := 0
  skipped : UInt32 := 0
  unchanged : UInt32 := 0
  deriving DecidableEq, Repr

namespace Summary

def writes (s : Summary) : UInt32 := s.created + s.updated + s.deleted

def text (s : Summary) : String :=
  "created=" ++ toString s.created.toNat ++ " updated=" ++ toString s.updated.toNat ++ " deleted="
    ++ toString s.deleted.toNat ++ " skipped=" ++ toString s.skipped.toNat ++ " unchanged="
    ++ toString s.unchanged.toNat

end Summary

end Gradebook
