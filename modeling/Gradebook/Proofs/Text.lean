import Gradebook.Text.Blank
import Gradebook.Text.Digit
import Gradebook.Text.Numeral
import Gradebook.Text.Split
import Mathlib.Data.List.TakeWhile

/-! What cutting, trimming and reading numbers give on texts that are put together from their parts: a text in front of
a separator, blanks around a text, the decimal form of a number. -/

namespace Gradebook.Text

variable {sep c : Char} {cs before : List Char} {limit value : Nat}

/-! ### Separators -/

theorem cutAt_append (absent : sep ∉ before) (after : List Char) :
    cutAt sep (before ++ sep :: after) = (before, some after) := by
  induction before with
  | nil => simp [cutAt]
  | cons b rest ih =>
      obtain ⟨hb, hrest⟩ := List.ne_and_not_mem_of_not_mem_cons absent
      rw [List.cons_append, cutAt, if_neg hb.symm, ih hrest]

theorem cutAt_absent (absent : sep ∉ cs) : cutAt sep cs = (cs, none) := by
  induction cs with
  | nil => rfl
  | cons c rest ih =>
      obtain ⟨hc, hrest⟩ := List.ne_and_not_mem_of_not_mem_cons absent
      rw [cutAt, if_neg hc.symm, ih hrest]

/-! ### Blanks -/

theorem isBlank_of_isDigit (digit : c.isDigit = true) : isBlank c = false := by
  obtain ⟨low, high⟩ : 48 ≤ c.toNat ∧ c.toNat ≤ 57 := by
    simpa [Char.isDigit, UInt32.le_iff_toNat_le] using digit
  simp [isBlank, inTable, blankTable, CharRange.covers]
  omega

theorem trimLeft_eq_self : trimLeft cs = cs ↔ ∀ c ∈ cs.head?, isBlank c = false := by
  unfold trimLeft
  rw [List.dropWhile_eq_self_iff]
  cases cs <;> simp

theorem head?_trimLeft (cs : List Char) : ∀ c ∈ (trimLeft cs).head?, isBlank c = false := by
  unfold trimLeft
  intro c hc
  have stops := List.head?_dropWhile_not isBlank cs
  rw [Option.mem_def.mp hc] at stops
  exact stops

/-- Trimming at the end is trimming at the start of the reversed text. -/
theorem trimRight_eq (cs : List Char) : trimRight cs = (trimLeft cs.reverse).reverse := rfl

/-- A text that neither starts nor ends with a blank is trimmed. -/
theorem trimChars_of_ends (starts : ∀ c ∈ cs.head?, isBlank c = false)
    (ends : ∀ c ∈ cs.getLast?, isBlank c = false) : trimChars cs = cs := by
  rw [← List.head?_reverse] at ends
  rw [trimChars, trimLeft_eq_self.mpr starts, trimRight_eq, trimLeft_eq_self.mpr ends, List.reverse_reverse]

theorem head?_trimChars (cs : List Char) : ∀ c ∈ (trimChars cs).head?, isBlank c = false := by
  intro c hc
  have front : trimChars cs <+: trimLeft cs := by
    rw [trimChars, trimRight_eq, ← List.reverse_suffix, List.reverse_reverse]
    exact List.dropWhile_suffix _
  obtain ⟨rest, hrest⟩ := List.head?_eq_some_iff.mp hc
  obtain ⟨more, hmore⟩ := front
  refine head?_trimLeft cs c ?_
  rw [← hmore, hrest]
  rfl

theorem getLast?_trimChars (cs : List Char) : ∀ c ∈ (trimChars cs).getLast?, isBlank c = false := by
  rw [trimChars, trimRight_eq, List.getLast?_reverse]
  exact head?_trimLeft _

theorem trimChars_trimChars (cs : List Char) : trimChars (trimChars cs) = trimChars cs :=
  trimChars_of_ends (head?_trimChars cs) (getLast?_trimChars cs)

theorem trimChars_blank (blank : isBlank c = true) (cs : List Char) : trimChars (c :: cs) = trimChars cs := by
  rw [trimChars, trimLeft, List.dropWhile_cons_of_pos blank]
  rfl

theorem trimChars_of_trim {s : String} (trimmed : trim s = s) : trimChars s.toList = s.toList := by
  have chars := congrArg String.toList trimmed
  rwa [trim, String.toList_ofList] at chars

theorem trim_eq_self {s : String} : trim s = s ↔
    (∀ c ∈ s.toList.head?, isBlank c = false) ∧ ∀ c ∈ s.toList.getLast?, isBlank c = false := by
  constructor
  · intro trimmed
    rw [← trimChars_of_trim trimmed]
    exact ⟨head?_trimChars _, getLast?_trimChars _⟩
  · rintro ⟨starts, ends⟩
    rw [trim, trimChars_of_ends starts ends, String.ofList_toList]

theorem trimChars_eq_nil : trimChars cs = [] ↔ ∀ c ∈ cs, isBlank c = true := by
  rw [trimChars, trimRight, List.reverse_eq_nil_iff, List.dropWhile_eq_nil_iff, trimLeft]
  constructor
  · intro blank
    -- what is left starts with no blank, so nothing is left
    cases rest : cs.dropWhile isBlank with
    | nil => exact List.dropWhile_eq_nil_iff.mp rest
    | cons c more =>
        have stops := head?_trimLeft cs c (by rw [trimLeft, rest]; rfl)
        have first := blank c (by simp [rest])
        rw [stops] at first
        cases first
  · intro blank c hc
    exact blank c ((List.dropWhile_suffix _).subset (List.mem_reverse.mp hc))

theorem trimChars_ne_nil : trimChars cs ≠ [] ↔ ∃ c ∈ cs, isBlank c = false := by
  rw [ne_eq, trimChars_eq_nil]
  simp only [not_forall, exists_prop, Bool.not_eq_true]

/-- What trimming leaves, if anything, is not blank. -/
theorem isBlankText_trimChars (shown : trimChars cs ≠ []) : isBlankText (String.ofList (trimChars cs)) = false := by
  have rest : (trimLeft cs).reverse.dropWhile isBlank ≠ [] := by
    intro none
    apply shown
    rw [trimChars, trimRight, none, List.reverse_nil]
  have last := List.head_dropWhile_not isBlank rest
  rw [isBlankText, String.toList_ofList, List.all_eq_false]
  refine ⟨_, ?_, by rw [last]; exact Bool.false_ne_true⟩
  rw [trimChars, trimRight, List.mem_reverse]
  exact List.head_mem rest

/-! ### Numbers -/

theorem isDigitOfAnyScript_of_isDigit (digit : c.isDigit = true) : isDigitOfAnyScript c = true := by
  obtain ⟨low, high⟩ : 48 ≤ c.toNat ∧ c.toNat ≤ 57 := by
    simpa [Char.isDigit, UInt32.le_iff_toNat_le] using digit
  exact List.any_eq_true.mpr ⟨(0x30, 0x39), List.mem_cons_self, by simp [CharRange.covers, low, high]⟩

theorem le_ofDigitChars (cs : List Char) (value : Nat) : value ≤ Nat.ofDigitChars 10 cs value := by
  rw [Nat.ofDigitChars_eq_ofDigitChars_zero]
  have : value ≤ 10 ^ cs.length * value := Nat.le_mul_of_pos_left value (Nat.pow_pos (by decide))
  omega

theorem ofDigitChars_digitValue (c : Char) (cs : List Char) (value : Nat) :
    Nat.ofDigitChars 10 (c :: cs) value = Nat.ofDigitChars 10 cs (value * 10 + digitValue c) := by
  rw [Nat.ofDigitChars_cons, digitValue, Nat.mul_comm]

/-- Digits are read up to the first character that is none, and no further than the limit. -/
theorem readDigits_eq (excess : NumeralFlaw) (within : value ≤ limit) : readDigits limit excess value cs =
    if limit < Nat.ofDigitChars 10 (cs.takeWhile Char.isDigit) value then .error excess
    else if cs.all Char.isDigit then .ok (Nat.ofDigitChars 10 cs value)
    else .error .invalidDigit := by
  induction cs generalizing value with
  | nil =>
      rw [List.takeWhile_nil, Nat.ofDigitChars_nil, if_neg (Nat.not_lt.mpr within)]
      rfl
  | cons c rest ih =>
      by_cases digit : c.isDigit = true
      · rw [readDigits, if_pos digit, List.takeWhile_cons_of_pos digit]
        simp only [ofDigitChars_digitValue, List.all_cons, digit, Bool.true_and]
        by_cases exceeds : limit < value * 10 + digitValue c
        · rw [if_pos exceeds, if_pos (Nat.lt_of_lt_of_le exceeds (le_ofDigitChars _ _))]
        · rw [if_neg exceeds]
          exact ih (Nat.not_lt.mp exceeds)
      · rw [readDigits, if_neg digit, List.takeWhile_cons_of_neg digit, Nat.ofDigitChars_nil,
          if_neg (Nat.not_lt.mpr within), if_neg fun all => digit (List.all_eq_true.mp all c List.mem_cons_self)]

theorem takeWhile_isDigit (digits : ∀ c ∈ cs, c.isDigit = true) : cs.takeWhile Char.isDigit = cs :=
  List.takeWhile_eq_self_iff.mpr digits

theorem readDigits_ok (excess : NumeralFlaw) (digits : ∀ c ∈ cs, c.isDigit = true)
    (fits : Nat.ofDigitChars 10 cs value ≤ limit) :
    readDigits limit excess value cs = .ok (Nat.ofDigitChars 10 cs value) := by
  rw [readDigits_eq excess (Nat.le_trans (le_ofDigitChars cs value) fits), takeWhile_isDigit digits,
    if_neg (Nat.not_lt.mpr fits), if_pos (List.all_eq_true.mpr digits)]

/-- Only ASCII digits are read as a number, and only up to the limit. -/
theorem of_readDigits {excess : NumeralFlaw} {n : Nat} (within : value ≤ limit)
    (read : readDigits limit excess value cs = .ok n) :
    (∀ c ∈ cs, c.isDigit = true) ∧ n = Nat.ofDigitChars 10 cs value ∧ n ≤ limit := by
  rw [readDigits_eq excess within] at read
  split at read
  · cases read
  · next fits =>
    split at read
    · next digits =>
      cases read
      rw [List.all_eq_true] at digits
      rw [takeWhile_isDigit digits] at fits
      exact ⟨digits, rfl, Nat.not_lt.mp fits⟩
    · cases read

theorem readInteger_unsigned (low high : Int) (nonempty : cs ≠ []) (plus : '+' ∉ cs.head?) (minus : '-' ∉ cs.head?) :
    readInteger low high cs = (readDigits high.toNat .tooLarge 0 cs).map Int.ofNat := by
  obtain ⟨c, rest, rfl⟩ := List.exists_cons_of_ne_nil nonempty
  rw [readInteger]
  · nofun
  · rintro _ ⟨⟩
    exact plus rfl
  · rintro _ ⟨⟩
    exact minus rfl

/-- A numeral without a sign. -/
theorem readInteger_digits (low high : Int) (nonempty : cs ≠ []) (digits : ∀ c ∈ cs, c.isDigit = true)
    (fits : Nat.ofDigitChars 10 cs 0 ≤ high.toNat) :
    readInteger low high cs = .ok (Nat.ofDigitChars 10 cs 0 : Nat) := by
  have sign (c : Char) (hc : c.isDigit = false) : c ∉ cs.head? := by
    intro first
    have digit := digits c (List.mem_of_mem_head? first)
    rw [hc] at digit
    cases digit
  rw [readInteger_unsigned low high nonempty (sign '+' rfl) (sign '-' rfl), readDigits_ok .tooLarge digits fits]
  rfl

theorem readInteger_decimal (low high : Int) {n : Nat} (fits : n ≤ high.toNat) :
    readInteger low high (Nat.toDigits 10 n) = .ok (n : Int) := by
  have digits (c : Char) (hc : c ∈ Nat.toDigits 10 n) : c.isDigit = true :=
    Nat.isDigit_of_mem_toDigits (by decide) (by decide) hc
  have spelt : Nat.ofDigitChars 10 (Nat.toDigits 10 n) 0 = n := Nat.ofDigitChars_ten_toDigits
  have read := readInteger_digits low high Nat.toDigits_ne_nil digits (Nat.le_trans (Nat.le_of_eq spelt) fits)
  rwa [spelt] at read

/-- An integer is read back from its text. -/
theorem readInteger_toString (low high : Int) {n : Int} (above : low ≤ n) (below : n ≤ high) :
    readInteger low high (toString n).toList = .ok n := by
  cases n with
  | ofNat n =>
      have text : toString (Int.ofNat n) = n.repr := rfl
      rw [Int.ofNat_eq_natCast] at below
      rw [text, Nat.toList_repr]
      exact readInteger_decimal low high (by omega)
  | negSucc n =>
      have text : toString (Int.negSucc n) = "-" ++ (n + 1).repr := rfl
      have sign : "-".toList = ['-'] := rfl
      have fits : n + 1 ≤ (-low).toNat := by omega
      have digits (c : Char) (hc : c ∈ Nat.toDigits 10 (n + 1)) : c.isDigit = true :=
        Nat.isDigit_of_mem_toDigits (by decide) (by decide) hc
      have spelt : Nat.ofDigitChars 10 (Nat.toDigits 10 (n + 1)) 0 = n + 1 := Nat.ofDigitChars_ten_toDigits
      have read : readSigned (-low).toNat .tooSmall (Nat.toDigits 10 (n + 1)) = .ok (n + 1) := by
        rw [readSigned, readDigits_ok .tooSmall digits (Nat.le_trans (Nat.le_of_eq spelt) fits), spelt]
        exact Nat.toDigits_ne_nil
      rw [text, String.toList_append, Nat.toList_repr, sign, List.singleton_append, readInteger, if_pos (by omega),
        read]
      rfl

theorem readInt32_toString (n : Int32) : readInt32 (toString n.toInt) = .ok n := by
  rw [readInt32, readInteger_toString _ _ n.minValue_le_toInt n.toInt_le, Except.map, Int32.ofInt_toInt]

theorem readInt64_toString (n : Int64) : readInt64 (toString n.toInt) = .ok n := by
  rw [readInt64, readInteger_toString _ _ n.minValue_le_toInt n.toInt_le, Except.map, Int64.ofInt_toInt]

theorem mem_toString_int {n : Int} (hc : c ∈ (toString n).toList) : c = '-' ∨ c.isDigit = true := by
  have digit {n : Nat} (hc : c ∈ n.repr.toList) : c.isDigit = true := by
    rw [Nat.toList_repr] at hc
    exact Nat.isDigit_of_mem_toDigits (by decide) (by decide) hc
  cases n with
  | ofNat n => exact .inr (digit hc)
  | negSucc n =>
      have text : toString (Int.negSucc n) = "-" ++ (n + 1).repr := rfl
      rw [text, String.toList_append] at hc
      rcases List.mem_append.mp hc with sign | hc
      · exact .inl (List.mem_singleton.mp sign)
      · exact .inr (digit hc)

end Gradebook.Text
