import Gradebook.Proofs.Json.Token
import Gradebook.Proofs.Timestamp.Date
import Mathlib.Data.Nat.Digits.Defs

/-! Moments written as text and read back, field by field: each is a number of digits in front of something that is
none, or as wide as it can be read. -/

namespace Gradebook.Timestamp

variable {cs rest digits : List Char} {n width : Nat} {c : Char}

/-! ### Numbers -/

theorem padded_toList (width n : Nat) :
    (padded width n).toList =
      List.replicate (width - (Nat.toDigits 10 n).length) '0' ++ Nat.toDigits 10 n := by
  have text : toString n = String.ofList (Nat.toDigits 10 n) := rfl
  rw [padded, String.toList_append, String.toList_ofList, text, String.length_ofList, String.toList_ofList]

theorem digitsNumber_padded (width n : Nat) : digitsNumber (padded width n).toList = n := by
  have same (cs : List Char) : digitsNumber cs = Nat.ofDigitChars 10 cs 0 := by
    rw [← Json.digitsValue_eq]
    rfl
  have zeros (k : Nat) (cs : List Char) :
      Nat.ofDigitChars 10 (List.replicate k '0' ++ cs) 0 = Nat.ofDigitChars 10 cs 0 := by
    induction k with
    | zero => rfl
    | succ k ih => exact ih
  rw [same, padded_toList, zeros, Nat.ofDigitChars_ten_toDigits]

theorem digits_padded (width n : Nat) : ∀ c ∈ (padded width n).toList, c.isDigit = true := by
  intro c hc
  rw [padded_toList] at hc
  rcases List.mem_append.mp hc with zero | digit
  · rw [List.eq_of_mem_replicate zero]
    rfl
  · exact Json.isDigit_of_mem digit

theorem length_padded (width n : Nat) :
    (padded width n).toList.length = max width (Nat.toDigits 10 n).length := by
  rw [padded_toList, List.length_append, List.length_replicate]
  omega

theorem length_padded_of_lt (positive : 0 < width) (small : n < 10 ^ width) :
    (padded width n).toList.length = width := by
  have := Nat.toDigits_length 10 n width positive small
  rw [length_padded]
  omega

/-- A padded number starts with a digit. -/
theorem padded_starts (width n : Nat) : ∃ d ds, (padded width n).toList = d :: ds ∧ d.isDigit = true := by
  have shown : (padded width n).toList ≠ [] := by
    rw [padded_toList]
    exact List.append_ne_nil_of_right_ne_nil _ Nat.toDigits_ne_nil
  obtain ⟨d, ds, text⟩ := List.exists_cons_of_ne_nil shown
  exact ⟨d, ds, text, digits_padded width n d (by rw [text]; exact List.mem_cons_self)⟩

theorem trimLeft_cons (shown : Text.isBlank c = false) (cs : List Char) : Text.trimLeft (c :: cs) = c :: cs := by
  rw [Text.trimLeft, List.dropWhile_cons_of_neg (by rw [shown]; exact Bool.false_ne_true)]

theorem trimLeft_padded (width n : Nat) (rest : List Char) :
    Text.trimLeft ((padded width n).toList ++ rest) = (padded width n).toList ++ rest := by
  obtain ⟨d, ds, text, digit⟩ := padded_starts width n
  rw [text]
  exact trimLeft_cons (Text.isBlank_of_isDigit digit) _

/-- A number is read as far as it can be: up to something that is no digit, or up to the width. -/
theorem readNumber_padded {limit : Nat} (fits : (padded width n).toList.length ≤ limit)
    (stops : (padded width n).toList.length = limit ∨ ∀ c, rest.head? = some c → c.isDigit = false) :
    readNumber limit ((padded width n).toList ++ rest) = some (n, rest) := by
  have digits := digits_padded width n
  have taken : (((padded width n).toList ++ rest).take limit).takeWhile Char.isDigit = (padded width n).toList := by
    rw [List.take_append, List.take_of_length_le fits, List.takeWhile_append_of_pos digits]
    have none : (rest.take (limit - (padded width n).toList.length)).takeWhile Char.isDigit = [] := by
      rcases stops with full | stop
      · rw [full, Nat.sub_self, List.take_zero, List.takeWhile_nil]
      · cases rest with
        | nil => rw [List.take_nil, List.takeWhile_nil]
        | cons c rest =>
            cases limit - (padded width n).toList.length with
            | zero => rfl
            | succ more => simp [stop c rfl]
    rw [none, List.append_nil]
  have value := digitsNumber_padded width n
  have past : ((padded width n).toList ++ rest).drop (padded width n).toList.length = rest := List.drop_left
  obtain ⟨d, ds, text, -⟩ := padded_starts width n
  rw [readNumber, taken]
  rw [text] at value past ⊢
  simp only [value, past]

/-! ### Fields -/

theorem readField_padded (positive : 0 < width) (small : n < 10 ^ width) (rest : List Char) :
    readField width ((padded width n).toList ++ rest) = some (n, rest) := by
  have full := length_padded_of_lt positive small
  rw [readField, trimLeft_padded, readNumber_padded (Nat.le_of_eq full) (.inl full)]

theorem readMark_cons {mark : Char} (shown : Text.isBlank mark = false) (trimmed : Text.trimLeft cs = cs) :
    readMark mark (mark :: cs) = some cs := by
  rw [readMark, trimLeft_cons shown]
  simp only [if_true, trimmed]

theorem readYear_text (year : Int) (rest : List Char) :
    readYear ((yearText year).toList ++ '-' :: rest) = some (year, '-' :: rest) := by
  have stop (c : Char) (next : ('-' :: rest).head? = some c) : c.isDigit = false := by
    cases next
    rfl
  have whole (m : Nat) : readNumber ((padded 4 m).toList ++ '-' :: rest).length ((padded 4 m).toList ++ '-' :: rest) =
      some (m, '-' :: rest) :=
    readNumber_padded (by rw [List.length_append]; omega) (.inr stop)
  unfold yearText
  split
  · next plain =>
    have full := length_padded_of_lt (n := year.toNat) (by decide) (show year.toNat < 10 ^ 4 by omega)
    have read : readNumber 4 ((padded 4 year.toNat).toList ++ '-' :: rest) = some (year.toNat, '-' :: rest) :=
      readNumber_padded (Nat.le_of_eq full) (.inl full)
    obtain ⟨d, ds, text, digit⟩ := padded_starts 4 year.toNat
    rw [readYear, trimLeft_padded]
    split
    · next same =>
      rw [text] at same
      cases same
      cases digit
    · next same =>
      rw [text] at same
      cases same
      cases digit
    · have value : (year.toNat : Int) = year := Int.toNat_of_nonneg plain.1
      simp only [read, Option.map_some, value]
  · rw [String.toList_append]
    split
    · next negative =>
      have text : "-".toList = ['-'] := rfl
      rw [text, List.append_assoc, List.singleton_append, readYear, trimLeft_cons (by decide)]
      have value : -(year.natAbs : Int) = year := by omega
      simp only [whole, Option.map_some, value]
    · next positive =>
      have text : "+".toList = ['+'] := rfl
      rw [text, List.append_assoc, List.singleton_append, readYear, trimLeft_cons (by decide)]
      have value : (year.natAbs : Int) = year := by omega
      simp only [whole, Option.map_some, value]

theorem fields_of_isValid {date : Date} (valid : date.isValid = true) : date.month < 100 ∧ date.day < 100 := by
  obtain ⟨year, month, day⟩ := date
  simp only [Date.isValid, Bool.and_eq_true, decide_eq_true_eq] at valid
  obtain ⟨⟨-, low⟩, high⟩ := valid
  show month < 100 ∧ day < 100
  unfold daysInMonth at high
  split at high <;> first | (split at high <;> omega) | omega

theorem readDate_text {date : Date} (valid : date.isValid = true) (rest : List Char) :
    readDate ((yearText date.year).toList ++ '-' :: ((padded 2 date.month).toList ++ '-' ::
      ((padded 2 date.day).toList ++ rest))) = some (date, rest) := by
  obtain ⟨month, day⟩ := fields_of_isValid valid
  simp only [readDate, readYear_text, Option.bind_eq_bind, Option.bind_some,
    readMark_cons (show Text.isBlank '-' = false by decide) (trimLeft_padded ..),
    readField_padded (show 0 < 2 by decide) month, readField_padded (show 0 < 2 by decide) day, valid, if_true]
  rfl

theorem readFraction_padded {nano : Nat} (positive : 0 < width) (narrow : width ≤ 9) (small : n < 10 ^ width)
    (scaled : n * Nat.pow 10 (9 - width) = nano) :
    readFraction (("." ++ padded width n).toList ++ ['Z']) = some (nano, ['Z']) := by
  have full := length_padded_of_lt positive small
  have read : readNumber 9 ((padded width n).toList ++ ['Z']) = some (n, ['Z']) :=
    readNumber_padded (by omega) (.inr (by rintro c ⟨⟩; rfl))
  have length : ((padded width n).toList ++ ['Z']).length - ['Z'].length = width := by
    rw [List.length_append, full, Nat.add_sub_cancel]
  have point : ("." : String).toList = ['.'] := rfl
  rw [String.toList_append, point, List.append_assoc, List.singleton_append, readFraction]
  simp only [read, Option.bind_eq_bind, Option.bind_some, length, scaled]
  rfl

/-- Three, six or nine digits stand for the same nanoseconds: the digits left out were zeros. -/
theorem readFraction_text {nano : Nat} (small : nano < 1000000000) :
    readFraction ((fractionText nano).toList ++ ['Z']) = some (nano, ['Z']) := by
  unfold fractionText
  split
  · next none =>
    rw [none]
    rfl
  split
  · exact readFraction_padded (by decide) (by decide) (by omega) (show nano / 1000000 * 1000000 = nano by omega)
  split
  · exact readFraction_padded (by decide) (by decide) (by omega) (show nano / 1000 * 1000 = nano by omega)
  · exact readFraction_padded (by decide) (by decide) (by omega) (Nat.mul_one nano)

theorem readTime_text {hour minute second nano : Nat} (hours : hour < 24) (minutes : minute < 60)
    (seconds : second ≤ 60) (small : nano < 1000000000) :
    readTime ((padded 2 hour).toList ++ ':' :: ((padded 2 minute).toList ++ ':' ::
      ((padded 2 second).toList ++ ((fractionText nano).toList ++ ['Z'])))) =
      some ((hour * 3600 + minute * 60 + second - second / 60, nano + second / 60 * 1000000000), ['Z']) := by
  have colon : Text.isBlank ':' = false := by decide
  simp only [readTime, Option.bind_eq_bind, Option.bind_some,
    readMark_cons colon (trimLeft_padded ..), readFraction_text small,
    readField_padded (show 0 < 2 by decide) (show hour < 10 ^ 2 by omega),
    readField_padded (show 0 < 2 by decide) (show minute < 10 ^ 2 by omega),
    readField_padded (show 0 < 2 by decide) (show second < 10 ^ 2 by omega)]
  rw [if_pos (by omega)]
  rfl

/-! ### Moments -/

/-- A moment that the calendar has. A leap second only ever follows the last second of a minute. -/
structure InCalendar (t : Timestamp) : Prop where
  first : firstSecond ≤ t.second
  last : t.second < endSecond
  nano : t.nano < 1000000000 ∨ t.second % 60 = 59 ∧ t.nano < 2000000000

/-- The second of its day at which a moment is. -/
def secondOfDay (t : Timestamp) : Nat := (t.second % 86400).toNat

theorem text_toList (t : Timestamp) :
    t.text.toList =
      let date := Date.ofDays (t.second / 86400)
      let second := t.secondOfDay % 60 + t.nano / 1000000000
      (yearText date.year).toList ++ '-' :: ((padded 2 date.month).toList ++ '-' :: ((padded 2 date.day).toList ++
        'T' :: ((padded 2 (t.secondOfDay / 3600)).toList ++ ':' :: ((padded 2 (t.secondOfDay / 60 % 60)).toList ++
          ':' :: ((padded 2 second).toList ++ ((fractionText (t.nano % 1000000000)).toList ++ ['Z'])))))) := by
  have day : t.second.fdiv 86400 = t.second / 86400 := Int.fdiv_eq_ediv_of_nonneg _ (by decide)
  have rest : t.second - t.second / 86400 * 86400 = t.second % 86400 := by omega
  have dash : "-".toList = ['-'] := rfl
  have colon : ":".toList = [':'] := rfl
  have letters : "T".toList = ['T'] ∧ "Z".toList = ['Z'] := ⟨rfl, rfl⟩
  unfold text secondOfDay
  simp only [day, rest, String.toList_append, dash, colon, letters, List.append_assoc, List.cons_append,
    List.nil_append]

theorem readTime_of_inCalendar {t : Timestamp} (known : t.InCalendar) :
    readTime ((padded 2 (t.secondOfDay / 3600)).toList ++ ':' :: ((padded 2 (t.secondOfDay / 60 % 60)).toList ++
      ':' :: ((padded 2 (t.secondOfDay % 60 + t.nano / 1000000000)).toList ++
        ((fractionText (t.nano % 1000000000)).toList ++ ['Z'])))) = some ((t.secondOfDay, t.nano), ['Z']) := by
  have sod_lt : t.secondOfDay < 86400 := by
    unfold secondOfDay
    omega
  -- The second that is written is 60 just where the moment lies within a leap second.
  have leap : t.nano < 1000000000 ∨ t.secondOfDay % 60 = 59 ∧ t.nano < 2000000000 := by
    refine known.nano.imp_right fun nano => ⟨?_, nano.2⟩
    have last := nano.1
    unfold secondOfDay
    omega
  have second : t.secondOfDay / 3600 * 3600 + t.secondOfDay / 60 % 60 * 60 +
      (t.secondOfDay % 60 + t.nano / 1000000000) - (t.secondOfDay % 60 + t.nano / 1000000000) / 60 =
        t.secondOfDay := by omega
  have nano : t.nano % 1000000000 + (t.secondOfDay % 60 + t.nano / 1000000000) / 60 * 1000000000 = t.nano := by
    omega
  rw [readTime_text (by omega) (by omega) (by omega) (by omega), second, nano]

/-- **A moment is read back from its text**, to the nanosecond, leap seconds and years outside four digits included. -/
theorem parse?_text {t : Timestamp} (known : t.InCalendar) : parse? t.text = some t := by
  have first := known.first
  have last := known.last
  have valid : (Date.ofDays (t.second / 86400)).isValid = true := by
    refine isValid_ofDays ?_ ?_
    · unfold firstSecond at first
      omega
    · unfold endSecond at last
      omega
  have second : t.second / 86400 * 86400 + t.secondOfDay = t.second := by
    unfold secondOfDay
    omega
  have offset : readOffset ['Z'] = some (0, []) := by decide
  rw [parse?, text_toList]
  simp only [readDate_text valid, readTime_of_inCalendar known, offset, Option.bind_eq_bind, Option.bind_some,
    toDays_ofDays, second, Int.sub_zero, first, last, decide_true]
  rfl

end Gradebook.Timestamp
