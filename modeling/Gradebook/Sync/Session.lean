import Gradebook.Calendar
import Gradebook.Portal.Responder
import Gradebook.Store.Marks

/-! Sessions: work on the store that may ask the portal. A session keeps a trace of what it did outside the
store: calls of the portal in the order they were made, pauses between calls, and reports of progress.
The store changes only in transactions, each of which happens as a whole or not at all. -/

namespace Gradebook.Sync

open Portal

/-- What a session did outside the store. -/
inductive Event where
  | called (call : Call)
  | paused
  | reported (detail : String)
  deriving DecidableEq, Repr

/-- The store, whether it can only be read, and what was done outside it so far, oldest first. -/
structure World where
  store : Store := {}
  readOnly : Bool := false
  trace : List Event := []
  deriving DecidableEq, Repr

/-- Work that may fail with a fault. -/
abbrev Session (α : Type) := Attempt World Fault α

/-- Work that may fail with an error of the portal. -/
abbrev Fetch (α : Type) := Attempt World Portal.Error α

structure Settings where
  studentFallback : Bool := true
  markFallback : Bool := true
  currentAcademicYear : Year
  calendar : Calendar := .standard
  deriving DecidableEq, Repr

/-- The portal and the settings under which the services work. -/
structure Service where
  portal : Responder
  settings : Settings

/-- Whether a cancellation has fired by the checkpoint that follows a number of reports. -/
abbrev Cancellation := Nat → Bool

/-- A cancellation that never fires. -/
def Cancellation.never : Cancellation := fun _ => false

/-- A cancellation that fires right after a number of reports. -/
def Cancellation.after (reports : Nat) : Cancellation := fun made => decide (reports ≤ made)

def Event.call? : Event → Option Call
  | .called call => some call
  | _ => none

def Event.report? : Event → Option String
  | .reported detail => some detail
  | _ => none

/-- The calls made so far, oldest first. -/
def World.calls (w : World) : List Call := w.trace.filterMap Event.call?

/-- The reports made so far, oldest first. -/
def World.reports (w : World) : List String := w.trace.filterMap Event.report?

def note {ε : Type} (e : Event) : Attempt World ε Unit :=
  .change fun w => { w with trace := w.trace ++ [e] }

/-- Makes a call of the portal. The call is noted whatever the answer. -/
def ask {α : Type} (call : Call) (answer : List Call → Except Portal.Error α) : Fetch α := fun w =>
  (answer w.calls, { w with trace := w.trace ++ [.called call] })

def consult {α : Type} (f : Store → Except Store.Error α) : Session α := fun w =>
  match f w.store with
  | .ok x => (.ok x, w)
  | .error e => (.error e.fault, w)

/-- Works on the store in one transaction. A store that can only be read ends it at the first change. -/
def transact {α : Type} (a : Store.Action α) : Session α := fun w =>
  if w.readOnly && decide ((a w.store).2 ≠ w.store) then (.error Store.Error.readOnly.fault, w)
  else
    match a.atomically w.store with
    | (.ok x, store) => (.ok x, { w with store })
    | (.error e, store) => (.error e.fault, { w with store })

/-- Deletes something from the store in one transaction. A store that can only be read refuses to, whether
or not it is there. -/
def erase (a : Store.Action Unit) : Session Unit := fun w =>
  if w.readOnly then (.error Store.Error.readOnly.fault, w) else transact a w

/-- Tells the faults of some work within a wider activity. -/
def within {α : Type} (context : String) (a : Session α) : Session α := a.mapError (Fault.within context)

/-- The checkpoint before one of several records: the first is only stopped by a cancellation, and each
later one waits as the portal demands, which a cancellation ends. -/
def checkpoint (what : String) (cancellation : Cancellation) (done : Nat) : Session Unit :=
  if cancellation done then .fail (.cancelled what)
  else if done = 0 then pure ()
  else note .paused

end Gradebook.Sync
