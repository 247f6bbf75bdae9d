import Gradebook.Portal.Client
import Gradebook.Proofs.Except

/-! What a client takes for an answer. It answers a call only when the reply is a success whose body holds
entries; every other reply, a lost one included, is an error. -/

namespace Gradebook.Portal

/-- A reply that tells something: a success whose body can be read and holds entries. -/
def Reply.Tells {α : Type} (reply : Reply) (entry : Json → Except Json.Flaw α) (entries : List α) : Prop :=
  ∃ status body, reply = .answered status body ∧ 200 ≤ status ∧ status < 300 ∧
    Json.decodeText Json.parse? (envelopeOfJson entry) body = .ok entries ∧ entries ≠ []

namespace Client

variable {c : Client} {network : Network} {earlier : List Call} {pid : PupilId}

theorem isSuccess_iff {status : Nat} : isSuccess status = true ↔ 200 ≤ status ∧ status < 300 := by
  unfold isSuccess
  rw [Bool.and_eq_true, decide_eq_true_eq, decide_eq_true_eq]

theorem entriesOf_eq_ok {α : Type} {entry : Json → Except Json.Flaw α} {reply : Reply} {entries : List α} :
    entriesOf entry pid reply = .ok entries ↔ reply.Tells entry entries := by
  unfold entriesOf Reply.Tells
  constructor
  · intro h
    split at h
    · cases h
    · next status body =>
      split at h
      · next success =>
        rw [isSuccess_iff] at success
        split at h
        · cases h
        · next found nonempty decoded =>
          cases h
          exact ⟨status, body, rfl, success.1, success.2, decoded, nonempty⟩
        · cases h
      · cases h
  · rintro ⟨status, body, rfl, low, high, decoded, nonempty⟩
    simp only [if_pos (isSuccess_iff.mpr ⟨low, high⟩), decoded]

theorem items_eq_ok {call : Call} {found : List Item} :
    c.items network earlier call = .ok found ↔ (c.send network earlier call).Tells Item.ofJson found :=
  entriesOf_eq_ok

theorem yearOf_eq_ok {item : Item} {year : Year} :
    yearOf item = .ok year ↔ Text.readInt32 (Text.trim item.value) = .ok year := by
  unfold yearOf
  split
  · next found hfound => rw [hfound, Except.ok.injEq, Except.ok.injEq]
  · next flaw hflaw =>
    rw [hflaw]
    exact ⟨nofun, nofun⟩

/-! ### Answers of the client -/

theorem academicYears_eq_ok {years : List Year} :
    (c.responder network).academicYears earlier pid = .ok years ↔
      ∃ items, (c.send network earlier (.academicYears pid)).Tells Item.ofJson items ∧
        List.Forall₂ (fun item year => yearOf item = .ok year) items years := by
  refine except_bind_eq_ok.trans ?_
  simp only [items_eq_ok, mapM_eq_ok]

theorem reportingPeriods_ok {years : List Year} {periods : List String}
    (h : (c.responder network).reportingPeriods earlier pid years = .ok periods) :
    ∃ items, (c.send network earlier (.reportingPeriods pid years)).Tells Item.ofJson items := by
  obtain ⟨items, hitems, -⟩ := except_bind_eq_ok.mp h
  exact ⟨items, items_eq_ok.mp hitems⟩

theorem reportingSubjects_ok {years : List Year} {periods : List String} {subjects : List Subject}
    (h : (c.responder network).reportingSubjects earlier pid years periods = .ok subjects) :
    ∃ items, (c.send network earlier (.reportingSubjects pid years periods)).Tells Item.ofJson items := by
  obtain ⟨items, hitems, -⟩ := except_bind_eq_ok.mp h
  exact ⟨items, items_eq_ok.mp hitems⟩

theorem columnsForSubjects_ok {years : List Year} {periods columns : List String} {subjects : List Subject}
    (h : (c.responder network).columnsForSubjects earlier pid years periods subjects = .ok columns) :
    ∃ items,
      (c.send network earlier (.columnsForSubjects pid years periods subjects)).Tells Item.ofJson items := by
  obtain ⟨items, hitems, -⟩ := except_bind_eq_ok.mp h
  exact ⟨items, items_eq_ok.mp hitems⟩

theorem marksheet_ok {query : MarksheetQuery} {sheet : String}
    (h : (c.responder network).marksheet earlier pid query = .ok sheet) :
    ∃ fragments, (c.send network earlier (.marksheet pid query)).Tells Json.toText fragments ∧
      sheet = String.join fragments := by
  obtain ⟨fragments, hfragments, hsheet⟩ := except_bind_eq_ok.mp h
  cases hsheet
  exact ⟨fragments, entriesOf_eq_ok.mp hfragments, rfl⟩

end Client

end Gradebook.Portal
