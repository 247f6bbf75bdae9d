import Gradebook.Fault

/-! Percentages: whole numbers from 0 to 100, both included. -/

namespace Gradebook

structure Percentage where
  value : Nat
  le_hundred : value ≤ 100
  deriving DecidableEq, Repr

namespace Percentage

def outside (n : Int) : String := "percentage " ++ toString n ++ " outside [0, 100]"

/-- The percentage of a number between 0 and 100. -/
def ofInt? (n : Int) : Option Percentage :=
  if h : 0 ≤ n ∧ n ≤ 100 then some ⟨n.toNat, by omega⟩ else none

theorem ofInt?_eq_some {n : Int} {p : Percentage} : ofInt? n = some p ↔ 0 ≤ n ∧ n ≤ 100 ∧ (p.value : Int) = n := by
  obtain ⟨value, bound⟩ := p
  unfold ofInt?
  split
  · simp only [Option.some.injEq, Percentage.mk.injEq]
    omega
  · simp only [reduceCtorEq, false_iff]
    omega

/-- The percentage of a number, or a fault that names the number. -/
def ofInt (n : Int) : Except Fault Percentage :=
  match ofInt? n with
  | some p => .ok p
  | none => .error (.invalid (outside n))

def text (p : Percentage) : String := toString p.value ++ "%"

end Percentage

end Gradebook
