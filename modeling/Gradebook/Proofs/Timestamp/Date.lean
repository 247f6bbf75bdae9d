import Gradebook.Timestamp

/-! Days and dates. Every day has a date, and the date tells the day. Within an era of 400 years, which all have the
same days, the year is found from the day by a division that runs ahead of the leap days and is called back by them;
that it comes out right is checked at the two ends of each year, and it only grows in between. -/

namespace Gradebook.Timestamp

/-! ### The year of a day -/

/-- The days of an era before its year of that number, years counted from March. -/
def daysBefore (year : Nat) : Nat := 365 * year + year / 4 - year / 100

/-- The day of the era without the leap days before it, as far as they are past. -/
def unleaped (day : Nat) : Nat := day - day / 1460 + day / 36524 - day / 146096

/-- Whether the year of the era ends with a leap day. -/
def endsWithLeapDay (year : Nat) : Bool := (year + 1) % 4 == 0 && ((year + 1) % 100 != 0 || (year + 1) % 400 == 0)

/-- The length of a year of an era. -/
def daysOf (year : Nat) : Nat := if endsWithLeapDay year then 366 else 365

theorem daysOf_le (year : Nat) : daysOf year ≤ 366 := by
  unfold daysOf
  split <;> omega

theorem unleaped_mono {first second : Nat} (before : first ≤ second) (inside : second < 146097) :
    unleaped first ≤ unleaped second := by
  unfold unleaped
  omega

theorem unleaped_year : ∀ year < 400, 365 * year ≤ unleaped (daysBefore year) ∧
    unleaped (daysBefore year + daysOf year - 1) < 365 * (year + 1) ∧
    daysBefore year + daysOf year = if year = 399 then 146097 else daysBefore (year + 1) := by
  decide +kernel

/-- Every day of an era lies in the year that the division finds for it. -/
theorem year_of_day {day : Nat} (inside : day < 146097) :
    unleaped day / 365 < 400 ∧ daysBefore (unleaped day / 365) ≤ day ∧
      day < daysBefore (unleaped day / 365) + daysOf (unleaped day / 365) := by
  have small : unleaped day / 365 < 400 := by
    have bound := unleaped_mono (Nat.le_of_lt_succ inside) (by decide)
    have last : unleaped 146096 = 145999 := by decide
    omega
  generalize year_eq : unleaped day / 365 = year at small
  refine ⟨small, ?_, ?_⟩
  · refine Nat.not_lt.mp fun early => ?_
    cases year with
    | zero => exact absurd early (Nat.not_lt_zero day)
    | succ year =>
        obtain ⟨-, ends, next⟩ := unleaped_year year (by omega)
        rw [if_neg (by omega)] at next
        have bound : daysBefore (year + 1) ≤ 146097 := by
          unfold daysBefore
          omega
        have before := unleaped_mono (show day ≤ daysBefore year + daysOf year - 1 by omega) (by omega)
        omega
  · refine Nat.not_le.mp fun late => ?_
    obtain ⟨-, -, next⟩ := unleaped_year year small
    split at next
    · omega
    · obtain ⟨starts, -, -⟩ := unleaped_year (year + 1) (by omega)
      have after := unleaped_mono (show daysBefore (year + 1) ≤ day by omega) inside
      omega

/-! ### The date of a day -/

/-- The date of a day of a year of an era. -/
def dateOf (era : Int) (year dayOfYear : Nat) : Date :=
  let month := (5 * dayOfYear + 2) / 153
  ⟨year + era * 400 + (if month < 10 then 0 else 1), if month < 10 then month + 3 else month - 9,
    dayOfYear - (153 * month + 2) / 5 + 1⟩

theorem ofDays_era (era : Int) {day : Nat} (inside : day < 146097) :
    Date.ofDays (era * 146097 + day - 719468) =
      dateOf era (unleaped day / 365) (day - daysBefore (unleaped day / 365)) := by
  obtain ⟨-, past, within⟩ := year_of_day inside
  have era_eq : (era * 146097 + day - 719468 + 719468).fdiv 146097 = era := by
    rw [Int.fdiv_eq_ediv_of_nonneg _ (by decide)]
    omega
  have day_eq : era * 146097 + day - 719468 + 719468 - era * 146097 = (day : Int) := by omega
  have year_eq : ((day : Int) - day / 1460 + day / 36524 - day / 146096) / 365 = (unleaped day / 365 : Nat) := by
    unfold unleaped
    omega
  unfold Date.ofDays dateOf
  simp only [era_eq, day_eq, year_eq]
  generalize unleaped day / 365 = year at past within
  have dayOfYear_eq : (day : Int) - (365 * year + year / 4 - year / 100) = (day - daysBefore year : Nat) := by
    unfold daysBefore at past ⊢
    omega
  have bound : day - daysBefore year < 366 := by
    have := daysOf_le year
    omega
  simp only [dayOfYear_eq]
  generalize day - daysBefore year = dayOfYear at bound
  have month_eq : (5 * (dayOfYear : Int) + 2) / 153 = ((5 * dayOfYear + 2) / 153 : Nat) := by omega
  simp only [month_eq]
  generalize month_def : (5 * dayOfYear + 2) / 153 = month
  rw [Date.mk.injEq]
  refine ⟨?_, ?_, ?_⟩
  · split <;> split <;> split <;> omega
  · split <;> split <;> omega
  · omega

/-- Every day is one day of one year of one era. -/
theorem era_of_day (days : Int) :
    ∃ (era : Int) (year dayOfYear : Nat), year < 400 ∧ dayOfYear < daysOf year ∧
      days = era * 146097 + (daysBefore year + dayOfYear : Nat) - 719468 ∧
      Date.ofDays days = dateOf era year dayOfYear := by
  obtain ⟨era, day, inside, rfl⟩ : ∃ (era : Int) (day : Nat), day < 146097 ∧ days = era * 146097 + day - 719468 :=
    ⟨(days + 719468) / 146097, ((days + 719468) % 146097).toNat, by omega, by omega⟩
  obtain ⟨small, past, within⟩ := year_of_day inside
  exact ⟨era, _, _, small, by omega, by omega, ofDays_era era inside⟩

theorem toDays_dateOf (era : Int) {year dayOfYear : Nat} (small : year < 400) (within : dayOfYear < 366) :
    (dateOf era year dayOfYear).toDays = era * 146097 + (daysBefore year + dayOfYear : Nat) - 719468 := by
  unfold dateOf Date.toDays
  dsimp only
  generalize month_def : (5 * dayOfYear + 2) / 153 = month
  have marchYear_eq : (if (if month < 10 then month + 3 else month - 9) ≤ 2
      then (year : Int) + era * 400 + (if month < 10 then 0 else 1) - 1
      else year + era * 400 + (if month < 10 then 0 else 1)) = year + era * 400 := by
    split <;> split at * <;> omega
  have month_eq : (((if month < 10 then month + 3 else month - 9 : Nat) : Int) + 9) % 12 = month := by
    split <;> omega
  have era_eq : ((year : Int) + era * 400).fdiv 400 = era := by
    rw [Int.fdiv_eq_ediv_of_nonneg _ (by decide)]
    omega
  have year_eq : (year : Int) + era * 400 - era * 400 = year := by omega
  simp only [marchYear_eq, month_eq, era_eq, year_eq]
  unfold daysBefore
  omega

theorem toDays_ofDays (days : Int) : (Date.ofDays days).toDays = days := by
  obtain ⟨era, year, dayOfYear, small, within, rfl, date⟩ := era_of_day days
  rw [date, toDays_dateOf era small (Nat.lt_of_lt_of_le within (daysOf_le year))]

theorem isLeapYear_next (era : Int) (year : Nat) :
    isLeapYear (year + era * 400 + 1) = endsWithLeapDay year := by
  rw [Bool.eq_iff_iff]
  simp only [isLeapYear, endsWithLeapDay, Bool.and_eq_true, Bool.or_eq_true, beq_iff_eq, bne_iff_ne, ne_eq]
  omega

theorem day_of_dateOf (era : Int) {year dayOfYear : Nat} (within : dayOfYear < daysOf year) :
    1 ≤ (dateOf era year dayOfYear).day ∧
      (dateOf era year dayOfYear).day ≤
        daysInMonth (dateOf era year dayOfYear).year (dateOf era year dayOfYear).month := by
  have bound := Nat.lt_of_lt_of_le within (daysOf_le year)
  unfold dateOf
  dsimp only
  refine ⟨Nat.le_add_left 1 _, ?_⟩
  generalize month_def : (5 * dayOfYear + 2) / 153 = month
  rcases Nat.lt_or_ge month 11 with other | february
  · have months : month = 0 ∨ month = 1 ∨ month = 2 ∨ month = 3 ∨ month = 4 ∨ month = 5 ∨ month = 6 ∨ month = 7 ∨
        month = 8 ∨ month = 9 ∨ month = 10 := by omega
    rcases months with rfl | rfl | rfl | rfl | rfl | rfl | rfl | rfl | rfl | rfl | rfl
    all_goals
      simp only [daysInMonth, Nat.reduceLT, Nat.reduceAdd, Nat.reduceSub, if_true, if_false]
      omega
  -- The year ends with February, so that the leap day is the last of its days.
  · obtain rfl : month = 11 := by omega
    simp only [daysInMonth, Nat.reduceLT, if_false, isLeapYear_next]
    unfold daysOf at within
    split at within
    · next leap =>
      rw [if_pos leap]
      omega
    · next leap =>
      rw [if_neg leap]
      omega

/-- The days of the calendar, from the first of the first year to the last of the last, have dates. -/
theorem isValid_ofDays {days : Int} (first : Date.toDays ⟨firstYear, 1, 1⟩ ≤ days)
    (last : days < Date.toDays ⟨lastYear + 1, 1, 1⟩) : (Date.ofDays days).isValid = true := by
  rw [show Date.toDays ⟨firstYear, 1, 1⟩ = -96465292 by decide] at first
  rw [show Date.toDays ⟨lastYear + 1, 1, 1⟩ = 95026237 by decide] at last
  obtain ⟨era, year, dayOfYear, small, within, rfl, date⟩ := era_of_day days
  rw [date]
  obtain ⟨low, high⟩ := day_of_dateOf era within
  have years : firstYear ≤ (dateOf era year dayOfYear).year ∧ (dateOf era year dayOfYear).year ≤ lastYear := by
    unfold dateOf firstYear lastYear
    dsimp only
    unfold daysBefore at first last
    have bound := Nat.lt_of_lt_of_le within (daysOf_le year)
    refine ⟨by split <;> omega, ?_⟩
    refine Int.not_lt.mp fun late => ?_
    have last_era : era = 655 := by split at late <;> omega
    rw [last_era] at late last
    split at late <;> omega
  simp only [Date.isValid, low, high, years, decide_true, Bool.and_self]

end Gradebook.Timestamp
