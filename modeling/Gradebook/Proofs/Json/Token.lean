import Gradebook.Json.Printer
import Gradebook.Json.Reader
import Gradebook.Proofs.Text

/-! Strings and numbers of JSON, printed and read back in front of any text that does not go on with them. -/

namespace Gradebook.Json

variable {c : Char} {cs rest after : List Char} {n : Nat}

/-! ### Strings -/

/-- The unit that a printed character is read as: control characters without a short form as a number. -/
def unitOf (c : Char) : StringUnit :=
  if c.toNat < 0x20 ∧ c ∉ ['\n', '\r', '\t', '\x08', '\x0c'] then .escaped c.toNat else .char c

theorem hexUnit?_control : ∀ n < 32, hexUnit? '0' '0' (hexDigit (n / 16)) (hexDigit (n % 16)) = some n := by
  decide

theorem readUnits_short {letter : Char} (short : shortEscape? letter = some c) (cs : List Char) :
    readUnits ('\\' :: letter :: cs) = (readUnits cs).map fun read => (.char c :: read.1, read.2) := by
  have other : letter ≠ 'u' := by
    rintro rfl
    cases short
  rw [readUnits, short]
  · cases readUnits cs <;> rfl
  · intro _ _ _ _ _ same
    exact absurd same other

theorem readUnits_plain (visible : 0x20 ≤ c.toNat) (quote : c ≠ '"') (slash : c ≠ '\\') (cs : List Char) :
    readUnits (c :: cs) = (readUnits cs).map fun read => (.char c :: read.1, read.2) := by
  rw [readUnits, if_neg (by simp [slash]; omega)]
  · cases readUnits cs <;> rfl
  all_goals grind

theorem readUnits_control (control : c.toNat < 0x20) (cs : List Char) :
    readUnits ('\\' :: 'u' :: '0' :: '0' :: hexDigit (c.toNat / 16) :: hexDigit (c.toNat % 16) :: cs) =
      (readUnits cs).map fun read => (.escaped c.toNat :: read.1, read.2) := by
  rw [readUnits, hexUnit?_control c.toNat control]
  cases readUnits cs <;> rfl

theorem readUnits_escapeChar (c : Char) (cs : List Char) :
    readUnits (escapeChar c ++ cs) = (readUnits cs).map fun read => (unitOf c :: read.1, read.2) := by
  unfold escapeChar
  iterate 7
    split
    · next h =>
      subst h
      exact readUnits_short rfl cs
  split
  · next control =>
    have unit : unitOf c = .escaped c.toNat := if_pos ⟨control, by simp [*]⟩
    rw [unit]
    exact readUnits_control control cs
  · next quote slash _ _ _ _ _ visible =>
    have unit : unitOf c = .char c := if_neg fun h => visible h.1
    rw [unit]
    exact readUnits_plain (Nat.not_lt.mp visible) quote slash cs

theorem readUnits_escaped (s cs : List Char) :
    readUnits (s.flatMap escapeChar ++ '"' :: cs) = some (s.map unitOf, cs) := by
  induction s with
  | nil => rfl
  | cons c s ih =>
      rw [List.flatMap_cons, List.append_assoc, readUnits_escapeChar, ih]
      rfl

theorem unitsText?_control {code : Nat} (control : code < 0x20) {units : List StringUnit}
    (text : unitsText? units = some cs) : unitsText? (.escaped code :: units) = some (Char.ofNat code :: cs) := by
  have noHigh : ¬(0xD800 ≤ code ∧ code < 0xDC00) := by omega
  have noLow : ¬(0xDC00 ≤ code ∧ code < 0xE000) := by omega
  have noHalf : ¬(0xD800 ≤ code ∧ code < 0xE000) := by omega
  rcases units with _ | ⟨_ | low, units⟩
  · rw [unitsText?, if_neg noHalf, text]
    · rfl
    · nofun
  · rw [unitsText?, if_neg noHalf, text]
    · rfl
    · nofun
  · rw [unitsText?, if_neg noHigh, if_neg noLow, text]
    rfl

theorem unitsText?_units (s : List Char) : unitsText? (s.map unitOf) = some s := by
  induction s with
  | nil => rfl
  | cons c s ih =>
      rw [List.map_cons]
      by_cases number : c.toNat < 0x20 ∧ c ∉ ['\n', '\r', '\t', '\x08', '\x0c']
      · have unit : unitOf c = .escaped c.toNat := if_pos number
        rw [unit, unitsText?_control number.1 ih, Char.ofNat_toNat]
      · have unit : unitOf c = .char c := if_neg number
        rw [unit, unitsText?, ih]
        rfl

/-! ### Numbers -/

/-- The text does not go on with a number before it. -/
def EndsNumber (rest : List Char) : Prop :=
  ∀ c, rest.head? = some c → c.isDigit = false ∧ c ≠ '.' ∧ c ≠ 'e' ∧ c ≠ 'E'

theorem digitsValue_eq (cs : List Char) : digitsValue cs = Nat.ofDigitChars 10 cs 0 := by
  unfold digitsValue Nat.ofDigitChars
  congr 1
  funext n c
  rw [Nat.mul_comm]
  rfl

theorem isDigit_of_mem {c : Char} (hc : c ∈ Nat.toDigits 10 n) : c.isDigit = true :=
  Nat.isDigit_of_mem_toDigits (by decide) (by decide) hc

theorem digitChar_ne_zero : ∀ m < 10, m ≠ 0 → m.digitChar ≠ '0' := by
  decide

/-- The decimal form of a number starts with zero only if it is zero. -/
theorem toDigits_head (n : Nat) (positive : n ≠ 0) : ∃ d ds, Nat.toDigits 10 n = d :: ds ∧ d ≠ '0' := by
  induction n using Nat.strongRecOn with
  | _ n ih =>
      by_cases small : n < 10
      · rw [Nat.toDigits_of_lt_base small]
        exact ⟨n.digitChar, [], rfl, digitChar_ne_zero n small positive⟩
      · rw [Nat.toDigits_of_base_le (by decide) (by omega)]
        obtain ⟨d, ds, digits, nonzero⟩ := ih (n / 10) (by omega) (by omega)
        exact ⟨d, ds ++ [(n % 10).digitChar], by rw [digits]; rfl, nonzero⟩

theorem takeDigits (digits : ∀ c ∈ cs, c.isDigit = true) (stops : ∀ c, rest.head? = some c → c.isDigit = false) :
    (cs ++ rest).takeWhile Char.isDigit = cs ∧ (cs ++ rest).dropWhile Char.isDigit = rest := by
  rw [List.takeWhile_append_of_pos digits, List.dropWhile_append_of_pos digits]
  cases rest with
  | nil => simp
  | cons c rest =>
      have stop := stops c rfl
      simp [stop]

theorem readWhole_digits (n : Nat) (stops : ∀ c, rest.head? = some c → c.isDigit = false) :
    readWhole (Nat.toDigits 10 n ++ rest) = some (Nat.toDigits 10 n, rest) := by
  by_cases zero : n = 0
  · subst zero
    rw [Nat.toDigits_zero, List.singleton_append, readWhole, if_neg]
    cases rest with
    | nil => simp
    | cons c rest => simp [stops c rfl]
  · obtain ⟨d, ds, digits, nonzero⟩ := toDigits_head n zero
    obtain ⟨taken, dropped⟩ := takeDigits (fun c hc => isDigit_of_mem (n := n) hc) stops
    rw [readWhole, taken, dropped]
    · rw [digits]
    · rw [digits]
      rintro _ same
      exact nonzero (List.cons.inj same).1

theorem readFraction_none (stops : rest.head? ≠ some '.') : readFraction rest = some ([], rest) := by
  unfold readFraction
  split
  · exact absurd rfl stops
  · rfl

theorem readExponent_none (stops : ∀ c, rest.head? = some c → c ≠ 'e' ∧ c ≠ 'E') :
    readExponent rest = some (none, rest) := by
  unfold readExponent
  cases rest with
  | nil => rfl
  | cons c rest =>
      have stop := stops c rfl
      simp [stop.1, stop.2]

/-- A sign in front of digits, nothing for a number that is not negative. -/
def signOf (negative : Bool) : List Char := if negative then ['-'] else []

theorem toString_int (n : Int) :
    (toString n).toList = signOf (decide (n < 0)) ++ Nat.toDigits 10 n.natAbs := by
  cases n with
  | ofNat n =>
      have text : toString (Int.ofNat n) = n.repr := rfl
      rw [text, Nat.toList_repr, decide_eq_false (by simp)]
      rfl
  | negSucc n =>
      have text : toString (Int.negSucc n) = "-" ++ (n + 1).repr := rfl
      rw [text, String.toList_append, Nat.toList_repr, decide_eq_true (Int.negSucc_lt_zero n)]
      rfl

theorem signed_natAbs (n : Int) : (if n < 0 then -(n.natAbs : Int) else n.natAbs) = n := by
  split <;> omega

/-- The exponent of a printed number. -/
theorem readExponent_int (e : Int) (stops : ∀ c, rest.head? = some c → c.isDigit = false) :
    readExponent ('e' :: ((toString e).toList ++ rest)) = some (some e, rest) := by
  obtain ⟨taken, dropped⟩ := takeDigits (fun c hc => isDigit_of_mem (n := e.natAbs) hc) stops
  obtain ⟨d, ds, digits⟩ := List.exists_cons_of_ne_nil (Nat.toDigits_ne_nil (n := e.natAbs) (b := 10))
  have digit : d.isDigit = true := isDigit_of_mem (n := e.natAbs) (by rw [digits]; exact List.mem_cons_self)
  have value : (digitsValue (d :: ds) : Int) = e.natAbs := by
    rw [← digits, digitsValue_eq, Nat.ofDigitChars_ten_toDigits]
  rw [toString_int, digits]
  rw [digits] at taken dropped
  by_cases negative : e < 0
  · rw [decide_eq_true negative]
    simp only [signOf, if_true, List.cons_append, List.nil_append, readExponent, Bool.or_eq_true, decide_eq_true_eq,
      true_or] at taken dropped ⊢
    rw [taken, dropped]
    simp only [value]
    congr 3
    omega
  · rw [decide_eq_false negative]
    have plus : d ≠ '+' := by rintro rfl; cases digit
    have minus : d ≠ '-' := by rintro rfl; cases digit
    unfold readExponent
    simp only [signOf, Bool.false_eq_true, if_false, List.nil_append, decide_true, Bool.true_or, if_true]
    split
    · next same => exact absurd (List.cons.inj same).1 plus
    · next same => exact absurd (List.cons.inj same).1 minus
    · rw [taken, dropped]
      simp only [value]
      congr 3
      omega

/-- A number with an optional sign, digits, no point, and what is read as its exponent. -/
theorem readNumber_digits (negative : Bool) (m : Nat) {tail : List Char} {exponent : Option Int}
    (stops : ∀ c, tail.head? = some c → c.isDigit = false) (point : tail.head? ≠ some '.')
    (scale : readExponent tail = some (exponent, rest)) :
    readNumber (signOf negative ++ (Nat.toDigits 10 m ++ tail)) =
      let coefficient : Int := if negative then -(m : Int) else m
      some (if exponent.isNone && !(negative && m == 0) then .int coefficient
        else .decimal coefficient (exponent.getD 0), rest) := by
  obtain ⟨d, ds, digits⟩ := List.exists_cons_of_ne_nil (Nat.toDigits_ne_nil (n := m) (b := 10))
  have digit : d.isDigit = true := isDigit_of_mem (n := m) (by rw [digits]; exact List.mem_cons_self)
  have minus : d ≠ '-' := by rintro rfl; cases digit
  have whole := readWhole_digits m stops
  have value : digitsValue (d :: ds) = m := by rw [← digits, digitsValue_eq, Nat.ofDigitChars_ten_toDigits]
  rw [digits] at whole ⊢
  unfold readNumber
  cases negative with
  | true =>
      simp only [signOf, if_true, List.cons_append, List.nil_append] at whole ⊢
      simp only [whole, readFraction_none point, scale, Option.bind_eq_bind, Option.bind_some, List.append_nil, value]
      cases exponent <;> cases m <;> simp
  | false =>
      simp only [signOf, Bool.false_eq_true, if_false, List.nil_append]
      split
      · next begins => exact absurd (List.cons.inj begins).1 minus
      · simp only [whole, readFraction_none point, scale, Option.bind_eq_bind, Option.bind_some, List.append_nil, value]
        cases exponent <;> simp

theorem readNumber_int (n : Int) (ends : EndsNumber rest) :
    readNumber ((toString n).toList ++ rest) = some (.int n, rest) := by
  have scale := readExponent_none fun c hc => (ends c hc).2.2
  have point : rest.head? ≠ some '.' := fun hc => (ends '.' hc).2.1 rfl
  have sign : (if decide (n < 0) = true then -(n.natAbs : Int) else n.natAbs) = n := by
    simpa using signed_natAbs n
  have nonzero : (decide (n < 0) && n.natAbs == 0) = false := by
    rw [Bool.and_eq_false_iff, decide_eq_false_iff_not, beq_eq_false_iff_ne]
    omega
  rw [toString_int, List.append_assoc, readNumber_digits _ _ (fun c hc => (ends c hc).1) point scale]
  simp only [sign, nonzero]
  rfl

/-- Every number that is no integer, minus zero among them. -/
theorem readNumber_decimal (coefficient exponent : Int) (ends : EndsNumber rest) :
    readNumber ((decimalText coefficient exponent).toList ++ rest) = some (.decimal coefficient exponent, rest) := by
  unfold decimalText
  split
  · next zero =>
    obtain ⟨rfl, rfl⟩ := zero
    have scale := readExponent_none fun c hc => (ends c hc).2.2
    have point : rest.head? ≠ some '.' := fun hc => (ends '.' hc).2.1 rfl
    exact readNumber_digits true 0 (fun c hc => (ends c hc).1) point scale
  · have sign : (if decide (coefficient < 0) = true then -(coefficient.natAbs : Int) else coefficient.natAbs) =
        coefficient := by simpa using signed_natAbs coefficient
    have text : (toString coefficient ++ "e" ++ toString exponent).toList ++ rest =
        signOf (decide (coefficient < 0)) ++ (Nat.toDigits 10 coefficient.natAbs ++
          ('e' :: ((toString exponent).toList ++ rest))) := by
      rw [String.toList_append, String.toList_append, toString_int coefficient]
      simp
    have scale := readExponent_int exponent fun c hc => (ends c hc).1
    rw [text, readNumber_digits _ _ (by rintro _ ⟨⟩; rfl) (by simp) scale]
    simp only [sign]
    rfl

end Gradebook.Json
