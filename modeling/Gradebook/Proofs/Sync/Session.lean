import Gradebook.Proofs.Attempt
import Gradebook.Sync.Session

/-! What sessions do to a world. A call only lengthens the trace, a transaction only changes the store, and that
as its action alone would or not at all. -/

namespace Gradebook.Sync

open Portal Attempt

/-- The world after further calls. -/
def World.having (calls : List Call) (w : World) : World :=
  { w with trace := w.trace ++ calls.map .called }

/-- From one world to a later one with nothing but calls about one pupil in between. -/
def Asks (pid : PupilId) (w v : World) : Prop :=
  ∃ calls, v = w.having calls ∧ ∀ call ∈ calls, call.pid = pid

variable {pid : PupilId} {w v : World}

theorem calls_called (calls : List Call) : (calls.map Event.called).filterMap Event.call? = calls := by
  rw [List.filterMap_map]
  exact List.filterMap_some

theorem reports_called (calls : List Call) : (calls.map Event.called).filterMap Event.report? = [] := by
  simp [List.filterMap_map, Function.comp_def, Event.report?]

theorem World.calls_having (calls : List Call) (w : World) : (w.having calls).calls = w.calls ++ calls := by
  unfold World.calls World.having
  rw [List.filterMap_append, calls_called]

theorem World.having_having (calls more : List Call) (w : World) :
    (w.having calls).having more = w.having (calls ++ more) := by
  unfold World.having
  rw [List.map_append, List.append_assoc]

instance (pid : PupilId) : IsPreorder World (Asks pid) where
  refl w := ⟨[], by simp [World.having], by simp⟩
  trans w v u := by
    rintro ⟨calls, rfl, hcalls⟩ ⟨more, rfl, hmore⟩
    refine ⟨calls ++ more, World.having_having calls more w, ?_⟩
    intro call hcall
    rcases List.mem_append.mp hcall with hcall | hcall
    · exact hcalls call hcall
    · exact hmore call hcall

theorem ask_apply {α : Type} (call : Call) (answer : List Call → Except Portal.Error α) (w : World) :
    ask call answer w = (answer w.calls, w.having [call]) := rfl

/-- A transaction fails and changes nothing, or does what its action does. -/
theorem transact_cases {α : Type} (a : Store.Action α) (w : World) :
    (∃ fault, transact a w = (.error fault, w)) ∨
      ∃ x store, a w.store = (.ok x, store) ∧ transact a w = (.ok x, { w with store }) := by
  unfold transact
  split
  · exact Or.inl ⟨_, rfl⟩
  · rcases ha : a w.store with ⟨e | x, store⟩
    · rw [atomically_of_error ha]
      exact Or.inl ⟨_, rfl⟩
    · rw [atomically_of_ok ha]
      exact Or.inr ⟨x, store, rfl, rfl⟩

theorem transact_of_error {α : Type} {a : Store.Action α} {fault : Fault}
    (fails : (transact a w).1 = .error fault) : (transact a w).2 = w := by
  rcases transact_cases a w with ⟨_, stays⟩ | ⟨x, store, -, succeeds⟩
  · rw [stays]
  · rw [succeeds] at fails
    cases fails

theorem transact_of_ok {α : Type} {a : Store.Action α} {x : α} (succeeds : (transact a w).1 = .ok x) :
    a w.store = (.ok x, (transact a w).2.store) := by
  rcases transact_cases a w with ⟨_, fails⟩ | ⟨y, store, does, changes⟩
  · rw [fails] at succeeds
    cases succeeds
  · rw [changes] at succeeds ⊢
    cases succeeds
    exact does

/-- Where there may be writes, a transaction comes to what its action comes to. -/
theorem transact_outcome {α : Type} (a : Store.Action α) (writable : w.readOnly = false) :
    (transact a w).1 = (a w.store).1.mapError Store.Error.fault := by
  unfold transact
  rw [writable, Bool.false_and, if_neg Bool.false_ne_true]
  rcases ha : a w.store with ⟨e | x, store⟩
  · rw [atomically_of_error ha]
    rfl
  · rw [atomically_of_ok ha]
    rfl

/-- Where there may be writes, a transaction fails when its action does. -/
theorem transact_error_iff {α : Type} (a : Store.Action α) (writable : w.readOnly = false) :
    (∃ fault, (transact a w).1 = .error fault) ↔ ∃ e store, a w.store = (.error e, store) := by
  rw [transact_outcome a writable]
  rcases a w.store with ⟨e | x, store⟩
  · exact ⟨fun _ => ⟨e, store, rfl⟩, fun _ => ⟨_, rfl⟩⟩
  · exact ⟨nofun, nofun⟩

/-- Why a transaction fails: its action does, or it would change a store that can only be read. -/
theorem transact_fails {α : Type} {a : Store.Action α} {fault : Fault} (fails : (transact a w).1 = .error fault) :
    (∃ e store, a w.store = (.error e, store) ∧ fault = e.fault) ∨
      w.readOnly = true ∧ fault = Store.Error.readOnly.fault := by
  unfold transact at fails
  split at fails
  · next refused =>
    rw [Bool.and_eq_true] at refused
    cases fails
    exact Or.inr ⟨refused.1, rfl⟩
  · rcases ha : a w.store with ⟨e | x, store⟩
    · rw [atomically_of_error ha] at fails
      cases fails
      exact Or.inl ⟨e, store, rfl, rfl⟩
    · rw [atomically_of_ok ha] at fails
      cases fails

theorem transact_of_idle {α : Type} {a : Store.Action α} {x : α} (idle : a w.store = (.ok x, w.store)) :
    transact a w = (.ok x, w) := by
  unfold transact
  rw [idle, atomically_of_ok idle]
  simp

/-- What a transaction comes to depends on the store and whether it can be written. -/
theorem transact_congr {α : Type} (a : Store.Action α) (store : v.store = w.store)
    (readOnly : v.readOnly = w.readOnly) :
    (transact a v).1 = (transact a w).1 ∧ (transact a v).2.store = (transact a w).2.store := by
  unfold transact
  rw [store, readOnly]
  split
  · exact ⟨rfl, store⟩
  · rcases a.atomically w.store with ⟨e | x, s⟩ <;> exact ⟨rfl, rfl⟩

theorem transact_readOnly {α : Type} (a : Store.Action α) (w : World) : (transact a w).2.readOnly = w.readOnly := by
  rcases transact_cases a w with ⟨fault, fails⟩ | ⟨x, store, -, succeeds⟩
  · rw [fails]
  · rw [succeeds]

/-- No transaction changes a store that can only be read. -/
theorem transact_store_of_readOnly {α : Type} (a : Store.Action α) (only : w.readOnly = true) :
    (transact a w).2.store = w.store := by
  unfold transact
  split
  · rfl
  · next accepted =>
    have idle : (a w.store).2 = w.store := by simpa [only] using accepted
    rcases does : a w.store with ⟨e | x, s⟩
    · rw [atomically_of_error does]
    · rw [does] at idle
      rw [atomically_of_ok does]
      exact idle

theorem transact_calls {α : Type} (a : Store.Action α) (w : World) : (transact a w).2.calls = w.calls := by
  rcases transact_cases a w with ⟨fault, fails⟩ | ⟨x, store, -, succeeds⟩
  · rw [fails]
  · rw [succeeds]
    rfl

theorem transact_store {α : Type} {a : Store.Action α} {R : Store → Store → Prop} [IsPreorder Store R]
    (h : a.Moves R) (w : World) : R w.store (transact a w).2.store := by
  rcases transact_cases a w with ⟨fault, fails⟩ | ⟨x, store, ha, succeeds⟩
  · rw [fails]
    exact refl_of R w.store
  · rw [succeeds]
    exact h.leads ha

/-- The pause before a pupil or a period, with so many done before: the first goes without. -/
def pauseBefore (done : Nat) : List Event := if done = 0 then [] else [.paused]

/-- A checkpoint is where a cancellation ends a run; otherwise it may pause. -/
theorem checkpoint_apply (what : String) (cancellation : Cancellation) (done : Nat) (w : World) :
    checkpoint what cancellation done w =
      if cancellation done then (.error (.cancelled what), w)
      else (.ok (), { w with trace := w.trace ++ pauseBefore done }) := by
  unfold checkpoint pauseBefore
  cases cancellation done with
  | true => rfl
  | false =>
      by_cases first : done = 0
      · simp [first]
      · simp [first, note]

theorem calls_pauseBefore (done : Nat) : (pauseBefore done).filterMap Event.call? = [] := by
  unfold pauseBefore
  split <;> rfl

theorem reports_pauseBefore (done : Nat) : (pauseBefore done).filterMap Event.report? = [] := by
  unfold pauseBefore
  split <;> rfl

theorem checkpoint_cases (what : String) (cancellation : Cancellation) (done : Nat) (w : World) :
    cancellation done = true ∧ checkpoint what cancellation done w = (.error (.cancelled what), w) ∨
      cancellation done = false ∧ ∃ v, checkpoint what cancellation done w = (.ok (), v) ∧
        v.store = w.store ∧ v.calls = w.calls ∧ v.readOnly = w.readOnly := by
  rw [checkpoint_apply]
  cases cancellation done with
  | true => exact Or.inl ⟨rfl, rfl⟩
  | false =>
      refine Or.inr ⟨rfl, _, rfl, rfl, ?_, rfl⟩
      rw [World.calls, List.filterMap_append, calls_pauseBefore, List.append_nil, World.calls]

theorem checkpoint_world (what : String) (cancellation : Cancellation) (done : Nat) (w : World) :
    (checkpoint what cancellation done w).2.store = w.store ∧
      (checkpoint what cancellation done w).2.calls = w.calls := by
  rcases checkpoint_cases what cancellation done w with ⟨-, ends⟩ | ⟨-, v, passes, hstore, hcalls, -⟩
  · rw [ends]
    exact ⟨rfl, rfl⟩
  · rw [passes]
    exact ⟨hstore, hcalls⟩

theorem checkpoint_never (what : String) (done : Nat) (w : World) :
    ∃ v, checkpoint what .never done w = (.ok (), v) ∧ v.store = w.store ∧ v.calls = w.calls := by
  rcases checkpoint_cases what .never done w with ⟨fires, -⟩ | ⟨-, v, passes, hstore, hcalls, -⟩
  · cases fires
  · exact ⟨v, passes, hstore, hcalls⟩

theorem note_apply {ε : Type} (e : Event) (w : World) :
    (note e : Attempt World ε Unit) w = (.ok (), { w with trace := w.trace ++ [e] }) := rfl

theorem note_reported_calls (detail : String) (w : World) :
    ((note (.reported detail) : Session Unit) w).2.calls = w.calls := by
  simp [note, World.calls, Event.call?]

/-! ### Worlds that no session can tell apart -/

/-- Two worlds that differ in nothing but pauses and reports. -/
structure World.Alike (w v : World) : Prop where
  store : w.store = v.store
  readOnly : w.readOnly = v.readOnly
  calls : w.calls = v.calls

theorem World.Alike.trans {u : World} (h : w.Alike v) (k : v.Alike u) : w.Alike u :=
  ⟨h.store.trans k.store, h.readOnly.trans k.readOnly, h.calls.trans k.calls⟩

theorem ask_uniform {α : Type} (call : Call) (answer : List Call → Except Portal.Error α) :
    (ask call answer).Uniform World.Alike := by
  intro w v alike
  rw [ask_apply, ask_apply, alike.calls]
  refine ⟨rfl, alike.store, alike.readOnly, ?_⟩
  rw [World.calls_having, World.calls_having, alike.calls]

theorem transact_uniform {α : Type} (a : Store.Action α) : (transact a).Uniform World.Alike := by
  intro w v alike
  unfold transact
  rw [alike.store, alike.readOnly]
  split
  · exact ⟨rfl, alike⟩
  · rcases a.atomically v.store with ⟨e | x, store⟩
    · exact ⟨rfl, rfl, rfl, alike.calls⟩
    · exact ⟨rfl, rfl, rfl, alike.calls⟩

end Gradebook.Sync
