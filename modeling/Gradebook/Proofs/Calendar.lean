import Gradebook.Calendar
import Gradebook.Proofs.Except
import Mathlib.Data.List.Nodup

/-! The calendar's lists. A partial period stands for full periods whose column the calendar has, and one of them
contains a full period just when the partial period does, as far as year and term go. The walk over some years meets
places in ascending order, each once; so a range gives a period twice only where a column is listed twice and both of
its places lie in the range. -/

namespace Gradebook

/-- A number between two years is a year. -/
theorem Year.toInt_ofInt (low high : Year) {n : Int} (above : low.toInt ≤ n) (below : n ≤ high.toInt) :
    (Int32.ofInt n).toInt = n := by
  have lowest := Int32.le_toInt low
  have highest := Int32.toInt_lt high
  exact Int32.toInt_ofInt_of_le (by omega) (by omega)

theorem Period.full_inj {year other : Year} {term term' : Term} {column column' : String} :
    Period.full year term column = .full other term' column' ↔ year = other ∧ term = term' ∧ column = column' := by
  simp [Period.full]

/-- A full period contains only itself. -/
theorem Period.eq_of_contains {p q : Period} (full : p.isFull = true) (inside : p.contains q = true) : q = p := by
  obtain ⟨year, _ | term, _ | column⟩ := p
  · cases full
  · cases full
  · cases full
  · obtain ⟨other, term', column'⟩ := q
    simp only [Period.contains, Option.isNone_some, Bool.false_or, Bool.and_eq_true, beq_iff_eq] at inside
    obtain ⟨⟨rfl, rfl⟩, rfl⟩ := inside
    rfl

namespace Calendar

variable {calendar : Calendar} {year first last : Year} {term : Option Term} {p since upto : Period}
variable {periods : List Period} {key : Key}

/-! ### Partial periods -/

/-- Whether the calendar has the column of a period. -/
def lists (calendar : Calendar) (p : Period) : Bool := p.column.any calendar.columns.contains

theorem mem_build : p ∈ calendar.build year term ↔ ∃ own column, (term = none ∨ term = some own) ∧
    column ∈ calendar.columns ∧ p = .full year own column := by
  unfold build periodsOf
  rw [List.mem_flatMap]
  constructor
  · rintro ⟨own, hown, hp⟩
    obtain ⟨column, hcolumn, rfl⟩ := List.mem_map.mp hp
    refine ⟨own, column, ?_, hcolumn, rfl⟩
    cases term with
    | none => exact .inl rfl
    | some term => exact .inr (by rw [List.mem_singleton.mp hown])
  · rintro ⟨own, column, among, hcolumn, rfl⟩
    refine ⟨own, ?_, List.mem_map_of_mem hcolumn⟩
    rcases among with rfl | rfl
    · cases own <;> decide
    · exact List.mem_singleton_self own

/-- Of the full periods that a year or a term stands for, one contains a full period if year and term do and the
calendar has its column. -/
theorem any_build_contains (full : p.isFull = true) : (calendar.build year term).any (·.contains p) =
    ((⟨year, term, none⟩ : Period).contains p && calendar.lists p) := by
  obtain ⟨own, ownTerm, ownColumn⟩ := p
  cases ownTerm with
  | none => cases full
  | some ownTerm =>
    cases ownColumn with
    | none => cases full
    | some ownColumn =>
      rw [Bool.eq_iff_iff, List.any_eq_true]
      simp only [mem_build]
      constructor
      · rintro ⟨_, ⟨within, column, among, hcolumn, rfl⟩, inside⟩
        simp only [Period.contains, Period.full, Option.isNone_some, Bool.false_or, Bool.and_eq_true, beq_iff_eq,
          Option.some.injEq] at inside
        obtain ⟨⟨rfl, rfl⟩, rfl⟩ := inside
        rcases among with rfl | rfl <;> simpa [Period.contains, lists] using hcolumn
      · intro inside
        simp only [Period.contains, lists, Option.isNone_none, Bool.true_or, Bool.and_true, Bool.and_eq_true,
          Bool.or_eq_true, Option.isNone_iff_eq_none, beq_iff_eq, Option.any_some, List.contains_iff_mem] at inside
        obtain ⟨⟨rfl, among⟩, hcolumn⟩ := inside
        exact ⟨_, ⟨ownTerm, ownColumn, among, hcolumn, rfl⟩, by simp [Period.contains, Period.full]⟩

/-- Within a partial period, being in one of the full periods that it stands for is having a column of the calendar. -/
theorem contains_and_any_build {q : Period} (full : p.isFull = true) :
    (q.contains p && (calendar.build q.academicYear q.term).any (·.contains p)) =
      (q.contains p && calendar.lists p) := by
  rw [any_build_contains full]
  cases within : q.contains p with
  | false => rfl
  | true =>
      rw [Period.contains, Bool.and_eq_true, Bool.and_eq_true] at within
      simp [Period.contains, within.1.1, within.1.2]

theorem build_full : ∀ p ∈ calendar.build year term, p.isFull = true := by
  intro p hp
  obtain ⟨own, column, -, -, rfl⟩ := mem_build.mp hp
  rfl

/-! ### Places in order -/

namespace Key

variable {a b c : Key}

/-- A place that comes before another. -/
def Before (a b : Key) : Prop :=
  a.year < b.year ∨ a.year = b.year ∧ (a.term < b.term ∨ a.term = b.term ∧ a.position < b.position)

theorem le_iff : a.le b = true ↔ a.year < b.year ∨ a.year = b.year ∧
    (a.term < b.term ∨ a.term = b.term ∧ a.position ≤ b.position) := by
  simp [le]

theorem le_trans (ab : a.le b = true) (bc : b.le c = true) : a.le c = true := by
  rw [le_iff] at ab bc ⊢
  omega

theorem Before.ne (before : a.Before b) : a ≠ b := by
  rintro rfl
  unfold Before at before
  omega

end Key

theorem yearsBetween_ascends (first last : Year) :
    (yearsBetween first last).Pairwise fun a b => a.toInt < b.toInt := by
  unfold yearsBetween
  rw [List.pairwise_map]
  refine List.pairwise_lt_range.imp_of_mem ?_
  intro i j hi hj before
  rw [List.mem_range] at hi hj
  rw [Year.toInt_ofInt first last (by omega) (by omega),
    Year.toInt_ofInt first last (by omega) (by omega)]
  omega

theorem mem_yearsBetween : year ∈ yearsBetween first last ↔
    first.toInt ≤ year.toInt ∧ year.toInt ≤ last.toInt := by
  unfold yearsBetween
  rw [List.mem_map]
  constructor
  · rintro ⟨i, hi, rfl⟩
    rw [List.mem_range] at hi
    rw [Year.toInt_ofInt first last (by omega) (by omega)]
    omega
  · rintro ⟨above, below⟩
    refine ⟨(year.toInt - first.toInt).toNat, List.mem_range.mpr (by omega), ?_⟩
    rw [Int.toNat_of_nonneg (by omega), Int.add_comm, Int.sub_add_cancel, Int32.ofInt_toInt]

theorem mem_keyedPeriods : (key, p) ∈ calendar.keyedPeriods year ↔ ∃ own place column,
    calendar.columns[place]? = some column ∧ key = ⟨year.toInt, own.rank, place⟩ ∧ p = .full year own column := by
  unfold keyedPeriods
  rw [List.mem_flatMap]
  constructor
  · rintro ⟨own, -, hp⟩
    obtain ⟨⟨column, place⟩, hplace, same⟩ := List.mem_map.mp hp
    cases same
    exact ⟨own, place, column, List.mem_zipIdx_iff_getElem?.mp hplace, rfl, rfl⟩
  · rintro ⟨own, place, column, hplace, rfl, rfl⟩
    refine ⟨own, by cases own <;> decide, ?_⟩
    exact List.mem_map.mpr ⟨(column, place), List.mem_zipIdx_iff_getElem?.mpr hplace, rfl⟩

theorem keyedPeriods_ascend (calendar : Calendar) (year : Year) :
    (calendar.keyedPeriods year).Pairwise fun a b => a.1.Before b.1 := by
  unfold keyedPeriods
  rw [List.pairwise_flatMap]
  constructor
  · intro own _
    rw [List.pairwise_map]
    have places : (calendar.columns.zipIdx.map (·.2)).Pairwise (· < ·) := by
      rw [List.zipIdx_map_snd]
      exact List.pairwise_lt_range'
    refine (List.pairwise_map.mp places).imp ?_
    intro a b before
    exact .inr ⟨rfl, .inr ⟨rfl, before⟩⟩
  · have terms : Term.all.Pairwise fun a b => a.rank < b.rank := by decide
    refine terms.imp ?_
    intro a b before x hx y hy
    obtain ⟨_, -, rfl⟩ := List.mem_map.mp hx
    obtain ⟨_, -, rfl⟩ := List.mem_map.mp hy
    exact .inr ⟨rfl, .inl before⟩

/-- The full periods of some years with their places. -/
def walk (calendar : Calendar) (first last : Year) : List (Key × Period) :=
  (yearsBetween first last).flatMap calendar.keyedPeriods

theorem mem_walk : (key, p) ∈ calendar.walk first last ↔ ∃ year own place column,
    first.toInt ≤ Int32.toInt year ∧ Int32.toInt year ≤ last.toInt ∧ calendar.columns[place]? = some column ∧
      key = ⟨year.toInt, Term.rank own, place⟩ ∧ p = .full year own column := by
  unfold walk
  simp only [List.mem_flatMap, mem_yearsBetween, mem_keyedPeriods]
  constructor
  · rintro ⟨year, ⟨above, below⟩, own, place, column, rest⟩
    exact ⟨year, own, place, column, above, below, rest⟩
  · rintro ⟨year, own, place, column, above, below, rest⟩
    exact ⟨year, ⟨above, below⟩, own, place, column, rest⟩

/-- A walk meets places in ascending order, each once. -/
theorem walk_ascends (calendar : Calendar) (first last : Year) :
    (calendar.walk first last).Pairwise fun a b => a.1.Before b.1 := by
  unfold walk
  rw [List.pairwise_flatMap]
  refine ⟨fun year _ => keyedPeriods_ascend calendar year, ?_⟩
  refine (yearsBetween_ascends first last).imp ?_
  rintro a b before ⟨x, p⟩ hx ⟨y, q⟩ hy
  obtain ⟨_, _, _, -, rfl, -⟩ := mem_keyedPeriods.mp hx
  obtain ⟨_, _, _, -, rfl, -⟩ := mem_keyedPeriods.mp hy
  exact .inl before

/-! ### Ranges -/

/-- Whether a place lies between two others. -/
def between (lower upper key : Key) : Bool := lower.le key && key.le upper

theorem range_eq_ok : calendar.range since upto = .ok periods ↔ ∃ lower upper,
    calendar.firstKey since = .ok lower ∧ calendar.lastKey upto = .ok upper ∧ lower.le upper = true ∧
      periods = ((calendar.walk since.academicYear upto.academicYear).filter fun found =>
        between lower upper found.1).map (·.2) := by
  unfold range
  constructor
  · intro walks
    obtain ⟨lower, hlower, walks⟩ := except_bind_eq_ok.mp walks
    obtain ⟨upper, hupper, walks⟩ := except_bind_eq_ok.mp walks
    refine ⟨lower, upper, hlower, hupper, ?_⟩
    by_cases ordered : lower.le upper = true
    · rw [if_pos ordered] at walks
      cases walks
      exact ⟨ordered, rfl⟩
    · rw [if_neg ordered] at walks
      cases walks
  · rintro ⟨lower, upper, hlower, hupper, ordered, rfl⟩
    rw [hlower, hupper]
    exact if_pos ordered

theorem firstKey_year {lower : Key} (starts : calendar.firstKey p = .ok lower) :
    lower.year = p.academicYear.toInt := by
  obtain ⟨place, -, ends⟩ := except_bind_eq_ok.mp starts
  cases ends
  rfl

theorem lastKey_year {upper : Key} (ends : calendar.lastKey p = .ok upper) :
    upper.year = p.academicYear.toInt := by
  obtain ⟨place, -, ends⟩ := except_bind_eq_ok.mp ends
  cases ends
  rfl

/-- Every place between the ends of a range is met on its walk. -/
theorem mem_walk_between {lower upper : Key} (starts : calendar.firstKey since = .ok lower)
    (ends : calendar.lastKey upto = .ok upper) {own : Term} {place : Nat} {column : String}
    (hplace : calendar.columns[place]? = some column)
    (inside : between lower upper ⟨year.toInt, own.rank, place⟩ = true) :
    ((⟨year.toInt, own.rank, place⟩, .full year own column) : Key × Period) ∈
      calendar.walk since.academicYear upto.academicYear := by
  obtain ⟨above, below⟩ := Bool.and_eq_true_iff.mp inside
  rw [Key.le_iff] at above below
  have hfirst := firstKey_year starts
  have hlast := lastKey_year ends
  refine mem_walk.mpr ⟨year, own, place, column, ?_, ?_, hplace, rfl, rfl⟩
  · simp only at above
    omega
  · simp only at below
    omega

/-- Whether two places between two others are places of one column in one term. -/
def Repeats (calendar : Calendar) (lower upper : Key) : Prop :=
  ∃ year : Year, ∃ own : Term, ∃ i j column, i < j ∧
    calendar.columns[i]? = some column ∧ calendar.columns[j]? = some column ∧
    lower.le ⟨year.toInt, own.rank, i⟩ = true ∧ Key.le ⟨year.toInt, own.rank, j⟩ upper = true

theorem not_repeats_of_nodup (once : calendar.columns.Nodup) (lower upper : Key) :
    ¬calendar.Repeats lower upper := by
  rintro ⟨-, -, i, j, column, before, hi, hj, -, -⟩
  have inside : i < calendar.columns.length := (List.getElem?_eq_some_iff.mp hi).1
  have same := (List.getElem?_inj inside once).mp (hi.trans hj.symm)
  omega

/-- A range gives a period twice just where it holds two places of one column. -/
theorem range_nodup_iff {lower upper : Key} (starts : calendar.firstKey since = .ok lower)
    (ends : calendar.lastKey upto = .ok upper) (walks : calendar.range since upto = .ok periods) :
    periods.Nodup ↔ ¬calendar.Repeats lower upper := by
  obtain ⟨_, _, hlower, hupper, -, rfl⟩ := range_eq_ok.mp walks
  cases starts.symm.trans hlower
  cases ends.symm.trans hupper
  have places := (walk_ascends calendar since.academicYear upto.academicYear).filter fun found =>
    between lower upper found.1
  have once := places.imp fun before same => before.ne (congrArg Prod.fst same)
  rw [List.nodup_map_iff_inj_on once]
  constructor
  · rintro apart ⟨year, own, i, j, column, before, hi, hj, above, below⟩
    have first_le_last : Key.le ⟨year.toInt, own.rank, i⟩ ⟨year.toInt, own.rank, j⟩ = true :=
      Key.le_iff.mpr (.inr ⟨rfl, .inr ⟨rfl, Nat.le_of_lt before⟩⟩)
    have found (place : Nat) (hplace : calendar.columns[place]? = some column)
        (inside : between lower upper ⟨year.toInt, own.rank, place⟩ = true) :
        _ ∈ (calendar.walk since.academicYear upto.academicYear).filter fun found => between lower upper found.1 :=
      List.mem_filter.mpr ⟨mem_walk_between starts ends hplace inside, inside⟩
    have same := apart _ (found i hi (Bool.and_eq_true_iff.mpr ⟨above, Key.le_trans first_le_last below⟩)) _
      (found j hj (Bool.and_eq_true_iff.mpr ⟨Key.le_trans above first_le_last, below⟩)) rfl
    simp only [Prod.mk.injEq, Key.mk.injEq, true_and, and_true] at same
    omega
  · rintro apart ⟨x, p⟩ hx ⟨y, q⟩ hy same
    obtain ⟨hx, hxin⟩ := List.mem_filter.mp hx
    obtain ⟨hy, hyin⟩ := List.mem_filter.mp hy
    obtain ⟨xabove, xbelow⟩ := Bool.and_eq_true_iff.mp hxin
    obtain ⟨yabove, ybelow⟩ := Bool.and_eq_true_iff.mp hyin
    obtain ⟨year, own, i, column, -, -, hi, rfl, rfl⟩ := mem_walk.mp hx
    obtain ⟨year', own', j, column', -, -, hj, rfl, rfl⟩ := mem_walk.mp hy
    obtain ⟨rfl, rfl, rfl⟩ := Period.full_inj.mp same
    rcases Nat.lt_trichotomy i j with before | rfl | before
    · exact absurd ⟨year, own, i, j, column, before, hi, hj, xabove, ybelow⟩ apart
    · rfl
    · exact absurd ⟨year, own, j, i, column, before, hj, hi, yabove, xbelow⟩ apart

theorem range_full (walks : calendar.range since upto = .ok periods) : ∀ p ∈ periods, p.isFull = true := by
  obtain ⟨lower, upper, -, -, -, rfl⟩ := range_eq_ok.mp walks
  intro p hp
  obtain ⟨⟨key, _⟩, hfound, rfl⟩ := List.mem_map.mp hp
  obtain ⟨_, _, _, _, -, -, -, -, rfl⟩ := mem_walk.mp (List.mem_filter.mp hfound).1
  rfl

end Calendar

end Gradebook
