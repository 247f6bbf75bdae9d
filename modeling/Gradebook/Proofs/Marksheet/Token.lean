import Gradebook.Marksheet.Entry
import Mathlib.Data.List.Infix

/-! Percentage tokens: a tab, as such or written out, and the digits after it. A text is free of tokens when no tab in
it has a digit after it, and then the search finds nothing. No token reaches over a character that could not be part
of one behind its start, so around such a character a text is searched piece by piece. -/

namespace Gradebook.Marksheet

open Text (isDigitOfAnyScript)

/-- The two forms of a tab. -/
inductive Tab where
  | plain
  | written
  deriving DecidableEq, Repr

def Tab.chars : Tab → List Char
  | .plain => ['\t']
  | .written => ['\\', 't']

/-- No tab in the text has a digit after it. -/
def TokenFree (cs : List Char) : Prop :=
  ∀ (tab : Tab) (d : Char), isDigitOfAnyScript d = true → ¬tab.chars ++ [d] <:+: cs

/-- All the digits before the rest of a text, which has none at its start. -/
structure Numeral (digits after : List Char) : Prop where
  nonempty : digits ≠ []
  digits : ∀ d ∈ digits, isDigitOfAnyScript d = true
  ends : ∀ c ∈ after.head?, isDigitOfAnyScript c = false

/-- A character that can only be the first of a token. -/
structure Firm (c : Char) : Prop where
  ne_t : c ≠ 't'
  no_digit : isDigitOfAnyScript c = false

/-- A character that has no place in a token. -/
structure Barrier (c : Char) : Prop extends Firm c where
  ne_tab : c ≠ '\t'
  ne_backslash : c ≠ '\\'

/-- The number of tokens that a text has from the left, each after the one before. -/
def tokenCount (cs : List Char) : Nat :=
  match h : findPercentage 0 cs with
  | none => 0
  | some (_, _, after) =>
    have : after.length < cs.length := findPercentage_length h
    tokenCount after + 1
  termination_by cs.length

variable {cs xs ys digits after filler : List Char} {c : Char} {tab : Tab} {offset past : Nat}

theorem barrier_tag : Barrier '<' := ⟨⟨by decide, by decide⟩, by decide, by decide⟩

theorem barrier_close : Barrier '>' := ⟨⟨by decide, by decide⟩, by decide, by decide⟩

theorem Tab.exists_cons (tab : Tab) : ∃ c more, tab.chars = c :: more ∧ Firm c := by
  cases tab with
  | plain => exact ⟨_, _, rfl, by decide, by decide⟩
  | written => exact ⟨_, _, rfl, by decide, by decide⟩

/-! ### Places -/

theorem width_append (xs ys : List Char) : width (xs ++ ys) = width xs + width ys := by
  induction xs with
  | nil => simp [width]
  | cons x rest ih => rw [List.cons_append, width, width, ih, Nat.add_assoc]

/-! ### A token at a place -/

theorem numeral_takeWhile (nonempty : cs.takeWhile isDigitOfAnyScript ≠ []) :
    Numeral (cs.takeWhile isDigitOfAnyScript) (cs.dropWhile isDigitOfAnyScript) := by
  refine ⟨nonempty, List.all_eq_true.mp List.all_takeWhile, ?_⟩
  intro c hc
  have stops := List.head?_dropWhile_not isDigitOfAnyScript cs
  rw [Option.mem_def.mp hc] at stops
  exact stops

theorem Numeral.takeWhile_append (numeral : Numeral digits after) :
    (digits ++ after).takeWhile isDigitOfAnyScript = digits ∧
      (digits ++ after).dropWhile isDigitOfAnyScript = after := by
  have stops : after.takeWhile isDigitOfAnyScript = [] ∧ after.dropWhile isDigitOfAnyScript = after := by
    cases after with
    | nil => exact ⟨rfl, rfl⟩
    | cons c rest =>
        have hc : ¬isDigitOfAnyScript c = true := by simp [numeral.ends c rfl]
        exact ⟨List.takeWhile_cons_of_neg hc, List.dropWhile_cons_of_neg hc⟩
  rw [List.takeWhile_append_of_pos numeral.digits, List.dropWhile_append_of_pos numeral.digits, stops.1, stops.2,
    List.append_nil]
  exact ⟨rfl, rfl⟩

theorem digitRun?_eq_some : digitRun? cs = some (digits, after) ↔ cs = digits ++ after ∧ Numeral digits after := by
  unfold digitRun?
  constructor
  · intro h
    split at h
    · cases h
    · next nonempty =>
      cases h
      exact ⟨List.takeWhile_append_dropWhile.symm, numeral_takeWhile nonempty⟩
  · rintro ⟨rfl, numeral⟩
    rw [numeral.takeWhile_append.1, numeral.takeWhile_append.2]
    split
    · exact absurd rfl numeral.nonempty
    · rfl

theorem digitRun?_append (hc : isDigitOfAnyScript c = false) (xs ys : List Char) :
    digitRun? (xs ++ c :: ys) = (digitRun? xs).map fun (digits, after) => (digits, after ++ c :: ys) := by
  have piecewise : (xs ++ c :: ys).takeWhile isDigitOfAnyScript = xs.takeWhile isDigitOfAnyScript ∧
      (xs ++ c :: ys).dropWhile isDigitOfAnyScript = xs.dropWhile isDigitOfAnyScript ++ c :: ys := by
    induction xs with
    | nil => simp [hc]
    | cons x rest ih => by_cases hx : isDigitOfAnyScript x = true <;> simp [hx, ih]
  unfold digitRun?
  rw [piecewise.1, piecewise.2]
  split <;> rfl

theorem percentageToken?_eq_some {tabWidth : Nat} : percentageToken? cs = some (tabWidth, digits, after) ↔
    ∃ tab : Tab, tabWidth = width tab.chars ∧ cs = tab.chars ++ digits ++ after ∧ Numeral digits after := by
  constructor
  · intro h
    unfold percentageToken? at h
    split at h
    · obtain ⟨⟨d, a⟩, hrun, heq⟩ := Option.map_eq_some_iff.mp h
      cases heq
      obtain ⟨rfl, numeral⟩ := digitRun?_eq_some.mp hrun
      exact ⟨.plain, rfl, rfl, numeral⟩
    · obtain ⟨⟨d, a⟩, hrun, heq⟩ := Option.map_eq_some_iff.mp h
      cases heq
      obtain ⟨rfl, numeral⟩ := digitRun?_eq_some.mp hrun
      exact ⟨.written, rfl, rfl, numeral⟩
    · cases h
  · rintro ⟨tab, rfl, rfl, numeral⟩
    have run := digitRun?_eq_some.mpr ⟨rfl, numeral⟩
    cases tab with
    | plain => exact congrArg (Option.map fun (d, a) => (1, d, a)) run
    | written => exact congrArg (Option.map fun (d, a) => (2, d, a)) run

theorem percentageToken?_eq_none : percentageToken? cs = none ↔
    ∀ (tab : Tab) (d : Char), isDigitOfAnyScript d = true → ¬tab.chars ++ [d] <+: cs := by
  constructor
  · rintro none tab d hd ⟨rest, rfl⟩
    have nonempty : (d :: rest).takeWhile isDigitOfAnyScript ≠ [] := by
      rw [List.takeWhile_cons_of_pos hd]
      exact List.cons_ne_nil _ _
    have token := percentageToken?_eq_some.mpr ⟨tab, rfl, rfl, numeral_takeWhile nonempty⟩
    rw [List.append_assoc, List.takeWhile_append_dropWhile] at token
    rw [List.append_assoc] at none
    exact absurd (none.symm.trans token) (by simp)
  · intro h
    cases token : percentageToken? cs with
    | none => rfl
    | some found =>
        obtain ⟨tabWidth, digits, after⟩ := found
        obtain ⟨tab, -, rfl, numeral⟩ := percentageToken?_eq_some.mp token
        obtain ⟨d, more, rfl⟩ := List.exists_cons_of_ne_nil numeral.nonempty
        exact absurd ⟨more ++ after, by simp⟩ (h tab d (numeral.digits d List.mem_cons_self))

/-- No token reaches over a firm character from the text before it. -/
theorem percentageToken?_append (firm : Firm c) (nonempty : xs ≠ []) (ys : List Char) :
    percentageToken? (xs ++ c :: ys) =
      (percentageToken? xs).map fun (tabWidth, digits, after) => (tabWidth, digits, after ++ c :: ys) := by
  -- a firm character neither completes a written tab nor goes on with the digits
  have run := digitRun?_append firm.no_digit
  obtain ⟨x, rest, rfl⟩ := List.exists_cons_of_ne_nil nonempty
  by_cases htab : x = '\t'
  · subst htab
    simp [percentageToken?, run, Function.comp_def]
  · by_cases hbackslash : x = '\\'
    · subst hbackslash
      cases rest with
      | nil => simp [percentageToken?, firm.ne_t]
      | cons y rest =>
          by_cases ht : y = 't'
          · subst ht
            simp [percentageToken?, run, Function.comp_def]
          · simp [percentageToken?, ht]
    · simp [percentageToken?, htab, hbackslash]

theorem Barrier.percentageToken? (barrier : Barrier c) (cs : List Char) : percentageToken? (c :: cs) = none := by
  simp [Marksheet.percentageToken?, barrier.ne_tab, barrier.ne_backslash]

/-! ### Free of tokens -/

theorem TokenFree.of_infix (free : TokenFree cs) (h : xs <:+: cs) : TokenFree xs :=
  fun tab d hd token => free tab d hd (token.trans h)

theorem tokenFree_nil : TokenFree [] := by
  intro tab d _ h
  simpa using List.infix_nil.mp h

theorem tokenFree_cons : TokenFree (c :: cs) ↔ percentageToken? (c :: cs) = none ∧ TokenFree cs := by
  rw [percentageToken?_eq_none]
  constructor
  · intro free
    exact ⟨fun tab d hd h => free tab d hd h.isInfix, fun tab d hd h => free tab d hd (List.infix_cons h)⟩
  · rintro ⟨atHead, inside⟩ tab d hd h
    rcases List.infix_cons_iff.mp h with h | h
    · exact atHead tab d hd h
    · exact inside tab d hd h

/-! ### Searching -/

theorem findPercentage_eq_none (offset : Nat) (cs : List Char) : findPercentage offset cs = none ↔ TokenFree cs := by
  induction cs generalizing offset with
  | nil =>
      exact ⟨fun _ => tokenFree_nil, fun _ => rfl⟩
  | cons c rest ih =>
      rw [tokenFree_cons, ← ih (offset + c.utf8Size), findPercentage]
      cases percentageToken? (c :: rest) with
      | none => simp
      | some found => simp

theorem Barrier.findPercentage (barrier : Barrier c) (offset : Nat) (cs : List Char) :
    findPercentage offset (c :: cs) = findPercentage (offset + c.utf8Size) cs := by
  rw [Marksheet.findPercentage, barrier.percentageToken?]

instance (cs : List Char) : Decidable (TokenFree cs) := decidable_of_iff _ (findPercentage_eq_none 0 cs)

/-- Around a firm character a text is searched piece by piece. -/
theorem findPercentage_append (firm : Firm c) (offset : Nat) (xs ys : List Char) :
    findPercentage offset (xs ++ c :: ys) =
      match findPercentage offset xs with
      | some (digits, past, after) => some (digits, past, after ++ c :: ys)
      | none => findPercentage (offset + width xs) (c :: ys) := by
  induction xs generalizing offset with
  | nil => rfl
  | cons x rest ih =>
      have here := percentageToken?_append firm (List.cons_ne_nil x rest) ys
      rw [List.cons_append, findPercentage, ← List.cons_append, here, findPercentage]
      cases percentageToken? (x :: rest) with
      | none =>
          simp only [Option.map_none, ih, width, Nat.add_assoc]
      | some found => rfl

theorem findPercentage_of_free (free : TokenFree xs) (firm : Firm c) (offset : Nat) (ys : List Char) :
    findPercentage offset (xs ++ c :: ys) = findPercentage (offset + width xs) (c :: ys) := by
  rw [findPercentage_append firm, (findPercentage_eq_none _ _).mpr free]

theorem findPercentage_add (offset shift : Nat) (cs : List Char) : findPercentage (offset + shift) cs =
    (findPercentage offset cs).map fun (digits, past, after) => (digits, past + shift, after) := by
  induction cs generalizing offset with
  | nil => rfl
  | cons c rest ih =>
      rw [findPercentage, findPercentage]
      cases percentageToken? (c :: rest) with
      | none =>
          simp only
          rw [Nat.add_right_comm]
          exact ih _
      | some found =>
          simp only [Option.map_some, Option.some.injEq, Prod.mk.injEq, and_true, true_and]
          omega

/-- The first token of a text comes after text that is free of tokens. -/
theorem findPercentage_eq_some : findPercentage offset cs = some (digits, past, after) ↔
    ∃ (filler : List Char) (tab : Tab), cs = filler ++ (tab.chars ++ digits ++ after) ∧
      past = offset + width (filler ++ (tab.chars ++ digits)) ∧ TokenFree filler ∧ Numeral digits after := by
  constructor
  · intro h
    induction cs generalizing offset with
    | nil => cases h
    | cons c rest ih =>
        rw [findPercentage] at h
        split at h
        · next token =>
          cases h
          obtain ⟨tab, rfl, heq, numeral⟩ := percentageToken?_eq_some.mp token
          refine ⟨[], tab, heq, ?_, tokenFree_nil, numeral⟩
          rw [List.nil_append, width_append, Nat.add_assoc]
        · next none =>
          obtain ⟨filler, tab, rfl, rfl, free, numeral⟩ := ih h
          refine ⟨c :: filler, tab, rfl, ?_, ?_, numeral⟩
          · simp only [List.cons_append, width]
            omega
          · -- the token begins with a firm character, so no token began in front of it
            obtain ⟨d, more, htab, firm⟩ := tab.exists_cons
            rw [htab, List.cons_append, List.cons_append, ← List.cons_append,
              percentageToken?_append firm (List.cons_ne_nil c filler), Option.map_eq_none_iff] at none
            exact tokenFree_cons.mpr ⟨none, free⟩
  · rintro ⟨filler, tab, rfl, rfl, free, numeral⟩
    have token : percentageToken? (tab.chars ++ digits ++ after) = some (width tab.chars, digits, after) :=
      percentageToken?_eq_some.mpr ⟨tab, rfl, rfl, numeral⟩
    obtain ⟨c, more, htab, firm⟩ := tab.exists_cons
    rw [htab, List.cons_append, List.cons_append] at token ⊢
    rw [findPercentage_of_free free firm, findPercentage, token]
    simp only [width_append, width, Nat.add_assoc]

theorem findPercentage_of_free_barrier (free : TokenFree xs) (barrier : Barrier c) (offset : Nat) (ys : List Char) :
    findPercentage offset (xs ++ c :: ys) = findPercentage (offset + width (xs ++ [c])) ys := by
  rw [findPercentage_of_free free barrier.toFirm, barrier.findPercentage, width_append, Nat.add_assoc]
  rfl

/-! ### Counting -/

theorem tokenCount_of_some (h : findPercentage offset cs = some (digits, past, after)) :
    tokenCount cs = tokenCount after + 1 := by
  have fromStart := findPercentage_add 0 offset cs
  rw [Nat.zero_add, h] at fromStart
  rw [tokenCount]
  split
  · next none => rw [none] at fromStart; cases fromStart
  · next found =>
    rw [found, Option.map_some, Option.some.injEq, Prod.mk.injEq, Prod.mk.injEq] at fromStart
    rw [fromStart.2.2]

theorem tokenCount_eq_zero : tokenCount cs = 0 ↔ TokenFree cs := by
  rw [← findPercentage_eq_none 0 cs]
  constructor
  · intro zero
    cases h : findPercentage 0 cs with
    | none => rfl
    | some found => rw [tokenCount_of_some h] at zero; cases zero
  · intro none
    rw [tokenCount]
    split
    · rfl
    · next found => rw [none] at found; cases found

theorem tokenCount_congr (same : findPercentage offset xs = findPercentage past ys) : tokenCount xs = tokenCount ys := by
  cases h : findPercentage past ys with
  | none =>
      rw [h] at same
      rw [tokenCount_eq_zero.mpr ((findPercentage_eq_none _ _).mp same),
        tokenCount_eq_zero.mpr ((findPercentage_eq_none _ _).mp h)]
  | some found =>
      rw [h] at same
      rw [tokenCount_of_some same, tokenCount_of_some h]

/-- Around a firm character tokens are counted piece by piece. -/
theorem tokenCount_append (firm : Firm c) (xs ys : List Char) :
    tokenCount (xs ++ c :: ys) = tokenCount xs + tokenCount (c :: ys) := by
  cases h : findPercentage 0 xs with
  | none =>
      have free := (findPercentage_eq_none _ _).mp h
      rw [tokenCount_congr (findPercentage_of_free free firm 0 ys), tokenCount_eq_zero.mpr free, Nat.zero_add]
  | some found =>
      have search := findPercentage_append firm 0 xs ys
      rw [h] at search
      have shorter : found.2.2.length < xs.length := findPercentage_length h
      rw [tokenCount_of_some search, tokenCount_of_some h, tokenCount_append firm found.2.2 ys]
      exact Nat.add_right_comm _ _ _
  termination_by xs.length

end Gradebook.Marksheet
