import Gradebook.Json.Tagged

/-! Tagged records written and read back. Before its tag is looked for, a record is taken in whole, and that may change
it or refuse it. What is written here is taken in as it stands: its numbers have at most 64 binary digits, no text in
it is garbled, and no part of it is an object around an empty object. -/

namespace Gradebook.Json

variable {depth : Nat} {j kind : Json} {name tag : String} {members : List (String × Json)} {n : Int}

/-- The value is taken in as it stands, as deep as `depth` allows. -/
def IsAbsorbed (depth : Nat) (j : Json) : Prop := absorb depth j = some j

theorem isFinite_of_lt (small : n.natAbs < UInt64.size) : isFinite n 0 = true := by
  unfold isFinite leadingDigits
  rw [if_pos small]
  simp

theorem absorbed_int (small : n.natAbs < UInt64.size) : IsAbsorbed depth (.int n) := by
  rw [IsAbsorbed, absorb, isFinite_of_lt small]
  rfl

theorem absorbed_bool (b : Bool) : IsAbsorbed depth (.bool b) := rfl

theorem absorbed_text (s : String) : IsAbsorbed depth (.str s) := rfl

theorem absorbMembers_eq_self (each : ∀ member ∈ members, IsAbsorbed depth member.2) :
    absorbMembers depth members = some members := by
  induction members with
  | nil => rfl
  | cons member rest ih =>
      have first : absorb depth member.2 = some member.2 := each member List.mem_cons_self
      have others := ih fun member hm => each member (List.mem_cons_of_mem _ hm)
      rw [absorbMembers, first, others]
      rfl

/-- An object whose first member is no object is taken in when its members are. -/
theorem absorbed_obj (first : ∀ inner, j ≠ .obj inner) (head : IsAbsorbed depth j)
    (each : ∀ member ∈ members, IsAbsorbed depth member.2) : IsAbsorbed (depth + 1) (.obj ((name, j) :: members)) := by
  have taken : absorbMembers depth ((name, j) :: members) = some ((name, j) :: members) :=
    absorbMembers_eq_self (List.forall_mem_cons.mpr ⟨head, each⟩)
  rw [IsAbsorbed, absorb, if_pos (Nat.succ_pos depth), Nat.add_sub_cancel, taken, Option.map_some]
  unfold ofEmptyMember
  split
  · next same =>
    cases same
    exact absurd rfl (first [])
  · rfl

/-- A record written with its tag first is split into the tag and the rest. -/
theorem toTagged_obj (taken : IsAbsorbed depth (.obj ((tag, kind) :: members)))
    (untagged : ∀ member ∈ members, member.1 ≠ tag) :
    toTagged tag depth (.obj ((tag, kind) :: members)) = .ok (kind, .obj members) := by
  have none : members.filter (·.1 == tag) = [] :=
    List.filter_eq_nil_iff.mpr fun member hm same => untagged member hm (beq_iff_eq.mp same)
  have all : members.filter (·.1 != tag) = members :=
    List.filter_eq_self.mpr fun member hm => bne_iff_ne.mpr (untagged member hm)
  rw [IsAbsorbed] at taken
  rw [toTagged, taken]
  simp only [List.filter_cons, BEq.rfl, if_true, none, bne_self_eq_false, Bool.false_eq_true, if_false, all]

theorem decodeText_eq_ok {α : Type} {parse : String → Option Json} {decode : Json → Except Flaw α}
    {text : String} {x : α} :
    decodeText parse decode text = .ok x ↔ ∃ j, parse text = some j ∧ decode j = .ok x := by
  rw [decodeText]
  cases parse text with
  | none => simp
  | some j => simp

end Gradebook.Json
