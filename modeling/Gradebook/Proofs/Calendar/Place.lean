import Gradebook.Proofs.Calendar

/-! Places of the calendar. A place is one of the columns, told by its position, in one term of one year, and stands for
a full period. Every period has a first and a last place, as far as the calendar knows its column, and a range gives the
periods of exactly the places from the first of its start to the last of its end. -/

namespace Gradebook

namespace Term

theorem rank_inj {a b : Term} : a.rank = b.rank ↔ a = b := by
  cases a <;> cases b <;> decide

theorem rank_le (term : Term) : term.rank ≤ 2 := by
  cases term <;> decide

end Term

namespace Calendar

/-- A place of the calendar. Where the list repeats a column, one period has several places. -/
structure Place (calendar : Calendar) where
  year : Year
  term : Term
  position : Fin calendar.columns.length

variable {calendar : Calendar} {year first last : Year} {term : Option Term} {terms : List Term}
variable {p since upto : Period} {periods : List Period}

namespace Place

def key (place : calendar.Place) : Key := ⟨place.year.toInt, place.term.rank, place.position⟩

def period (place : calendar.Place) : Period := .full place.year place.term calendar.columns[place.position]

def Before (a b : calendar.Place) : Prop := a.key.Before b.key

end Place

theorem Key.le_iff_not_before {a b : Key} : a.le b = true ↔ ¬b.Before a := by
  rw [Key.le_iff, Key.Before]
  omega

/-! ### The ends of a period -/

/-- Whether the calendar has the column of a period, if the period names one. -/
def Knows (calendar : Calendar) (p : Period) : Prop := ∀ column ∈ p.column, column ∈ calendar.columns

/-- Where a period starts: what it leaves open is the first term and the first column, and a column stands for its
first place. -/
def opening (calendar : Calendar) (p : Period) : Key where
  year := p.academicYear.toInt
  term := (p.term.getD .autumn).rank
  position := p.column.elim 0 fun column => calendar.columns.idxOf column

/-- Where a period ends: what it leaves open is the last term and the last column. -/
def closing (calendar : Calendar) (p : Period) : Key where
  year := p.academicYear.toInt
  term := (p.term.getD .summer).rank
  position := p.column.elim (calendar.columns.length - 1) fun column => calendar.columns.idxOf column

theorem position_of_knows (knows : calendar.Knows p) :
    calendar.position p = .ok (p.column.map fun column => calendar.columns.idxOf column) := by
  unfold position
  cases named : p.column with
  | none => rfl
  | some column =>
      have listed : column ∈ calendar.columns := knows column named
      have found : calendar.columns.findIdx? (· == column) = some (calendar.columns.idxOf column) :=
        List.findIdx?_eq_some_iff_findIdx_eq.mpr ⟨List.idxOf_lt_length_iff.mpr listed, rfl⟩
      dsimp only
      rw [found]
      rfl

theorem position_of_not_knows (lacks : ¬calendar.Knows p) :
    ∃ column, calendar.position p = .error (.unknownColumn column p) := by
  simp only [Knows, not_forall, exists_prop] at lacks
  obtain ⟨column, named, absent⟩ := lacks
  refine ⟨column, ?_⟩
  have missed : calendar.columns.findIdx? (· == column) = none := by
    rw [List.findIdx?_eq_none_iff]
    rintro other listed
    rw [beq_eq_false_iff_ne]
    rintro rfl
    exact absent listed
  unfold position
  rw [Option.mem_def.mp named]
  dsimp only
  rw [missed]

theorem firstKey_of_knows (knows : calendar.Knows p) : calendar.firstKey p = .ok (calendar.opening p) := by
  unfold firstKey opening
  rw [position_of_knows knows]
  cases p.column <;> rfl

theorem lastKey_of_knows (knows : calendar.Knows p) : calendar.lastKey p = .ok (calendar.closing p) := by
  unfold lastKey closing
  rw [position_of_knows knows]
  cases p.column <;> rfl

/-! ### Places in order -/

/-- The places of some terms of a year. -/
def placesOf (calendar : Calendar) (year : Year) (terms : List Term) : List calendar.Place :=
  terms.flatMap fun term => (List.finRange calendar.columns.length).map fun position => ⟨year, term, position⟩

/-- The places of some years. -/
def placesAlong (calendar : Calendar) (first last : Year) : List calendar.Place :=
  (yearsBetween first last).flatMap fun year => calendar.placesOf year Term.all

theorem mem_placesOf {place : calendar.Place} :
    place ∈ calendar.placesOf year terms ↔ place.year = year ∧ place.term ∈ terms := by
  unfold placesOf
  rw [List.mem_flatMap]
  constructor
  · rintro ⟨own, among, hplace⟩
    obtain ⟨position, -, rfl⟩ := List.mem_map.mp hplace
    exact ⟨rfl, among⟩
  · rintro ⟨rfl, among⟩
    exact ⟨place.term, among, List.mem_map.mpr ⟨place.position, List.mem_finRange _, rfl⟩⟩

theorem mem_placesAlong {place : calendar.Place} : place ∈ calendar.placesAlong first last ↔
    first.toInt ≤ place.year.toInt ∧ place.year.toInt ≤ last.toInt := by
  unfold placesAlong
  simp only [List.mem_flatMap, mem_placesOf, mem_yearsBetween]
  constructor
  · rintro ⟨year, inside, rfl, -⟩
    exact inside
  · intro inside
    exact ⟨place.year, inside, rfl, by cases place.term <;> decide⟩

theorem periodsOf_eq (calendar : Calendar) (year : Year) (terms : List Term) :
    calendar.periodsOf year terms = (calendar.placesOf year terms).map Place.period := by
  unfold periodsOf placesOf
  rw [List.map_flatMap]
  congr 1
  funext own
  rw [List.map_map]
  -- only the list that is walked is told by its positions, not the one the positions point into
  conv_lhs => rw [← List.map_get_finRange calendar.columns, List.map_map]
  rfl

/-- The walk is told by its places. -/
theorem walk_eq (calendar : Calendar) (first last : Year) : calendar.walk first last =
    (calendar.placesAlong first last).map fun place => (place.key, place.period) := by
  have numbered : calendar.columns.zipIdx =
      (List.finRange calendar.columns.length).map fun i => (calendar.columns[i], i.val) :=
    List.ext_getElem (by simp) (by simp)
  unfold walk placesAlong keyedPeriods placesOf
  simp only [List.map_flatMap, List.map_map, numbered]
  rfl

theorem placesAlong_ascend (calendar : Calendar) (first last : Year) :
    (calendar.placesAlong first last).Pairwise Place.Before := by
  have ascends := walk_ascends calendar first last
  rw [walk_eq, List.pairwise_map] at ascends
  exact ascends

/-! ### Ranges -/

/-- The places from one key to another, along the years of two periods. -/
def placesWithin (calendar : Calendar) (since upto : Period) : List calendar.Place :=
  (calendar.placesAlong since.academicYear upto.academicYear).filter fun place =>
    between (calendar.opening since) (calendar.closing upto) place.key

theorem mem_placesWithin {place : calendar.Place} : place ∈ calendar.placesWithin since upto ↔
    between (calendar.opening since) (calendar.closing upto) place.key = true := by
  unfold placesWithin
  rw [List.mem_filter, mem_placesAlong, and_iff_right_iff_imp]
  intro inside
  -- a key between two others lies in a year between theirs, so the walk does not miss it
  obtain ⟨above, below⟩ := Bool.and_eq_true_iff.mp inside
  rw [Key.le_iff] at above below
  simp only [opening, closing, Place.key] at above below
  omega

/-- Whether a range names a column that the calendar lacks, or ends before it starts. -/
def Refuses (calendar : Calendar) (since upto : Period) : Prop :=
  ¬calendar.Knows since ∨ ¬calendar.Knows upto ∨ (calendar.closing upto).Before (calendar.opening since)

theorem range_of_not_refuses (accepts : ¬calendar.Refuses since upto) :
    calendar.range since upto = .ok ((calendar.placesWithin since upto).map Place.period) := by
  obtain ⟨starts, ends, ordered⟩ : calendar.Knows since ∧ calendar.Knows upto ∧
      ¬(calendar.closing upto).Before (calendar.opening since) := by
    simpa only [Refuses, not_or, not_not] using accepts
  refine range_eq_ok.mpr ⟨_, _, firstKey_of_knows starts, lastKey_of_knows ends, Key.le_iff_not_before.mpr ordered, ?_⟩
  rw [walk_eq, List.filter_map, List.map_map]
  rfl

theorem range_of_refuses (refuses : calendar.Refuses since upto) :
    ∃ defect, calendar.range since upto = .error defect := by
  unfold range
  by_cases starts : calendar.Knows since
  · rw [firstKey_of_knows starts]
    by_cases ends : calendar.Knows upto
    · rw [lastKey_of_knows ends]
      have reversed := (refuses.resolve_left (not_not.mpr starts)).resolve_left (not_not.mpr ends)
      exact ⟨_, if_neg (mt Key.le_iff_not_before.mp (not_not.mpr reversed))⟩
    · obtain ⟨column, missed⟩ := position_of_not_knows ends
      unfold lastKey
      rw [missed]
      exact ⟨_, rfl⟩
  · obtain ⟨column, missed⟩ := position_of_not_knows starts
    unfold firstKey
    rw [missed]
    exact ⟨_, rfl⟩

theorem range_eq_ok_iff : calendar.range since upto = .ok periods ↔
    ¬calendar.Refuses since upto ∧ periods = (calendar.placesWithin since upto).map Place.period := by
  by_cases refuses : calendar.Refuses since upto
  · obtain ⟨defect, refused⟩ := range_of_refuses refuses
    simp [refused, refuses]
  · simp [range_of_not_refuses refuses, refuses, eq_comm]

/-- Whether a period has a place from where one period starts to where another ends. -/
def Spans (calendar : Calendar) (since upto p : Period) : Prop :=
  ∃ place : calendar.Place, place.period = p ∧
    between (calendar.opening since) (calendar.closing upto) place.key = true

theorem mem_range (walks : calendar.range since upto = .ok periods) : p ∈ periods ↔ calendar.Spans since upto p := by
  obtain ⟨-, rfl⟩ := range_eq_ok_iff.mp walks
  simp only [Spans, List.mem_map, mem_placesWithin, and_comm]

/-- A period of a range contains another just where the other has a place in the range. -/
theorem range_contains_iff (walks : calendar.range since upto = .ok periods) :
    (∃ own ∈ periods, own.contains p = true) ↔ calendar.Spans since upto p := by
  rw [← mem_range walks]
  constructor
  · rintro ⟨own, hown, inside⟩
    rwa [Period.eq_of_contains (range_full walks own hown) inside]
  · intro hp
    exact ⟨p, hp, by simp [Period.contains]⟩

/-- From a year or a term to itself lie its places. -/
theorem between_bare {place : calendar.Place} :
    between (calendar.opening ⟨year, term, none⟩) (calendar.closing ⟨year, term, none⟩) place.key = true ↔
      place.year = year ∧ (term = none ∨ term = some place.term) := by
  have inside := place.position.isLt
  have latest := place.term.rank_le
  unfold between
  rw [Bool.and_eq_true, Key.le_iff, Key.le_iff, ← Int32.toInt_inj]
  cases term with
  | none =>
      have first : Term.autumn.rank = 0 := rfl
      have last : Term.summer.rank = 2 := rfl
      simp only [opening, closing, Place.key, Option.getD_none, Option.elim_none, first, last, true_or, and_true]
      omega
  | some own =>
      simp only [opening, closing, Place.key, Option.getD_some, Option.elim_none, reduceCtorEq, false_or,
        Option.some.injEq, ← Term.rank_inj]
      omega

theorem not_refuses_bare (calendar : Calendar) (year : Year) (term : Option Term) :
    ¬calendar.Refuses ⟨year, term, none⟩ ⟨year, term, none⟩ := by
  have knows : calendar.Knows ⟨year, term, none⟩ := nofun
  rintro (lacks | lacks | reversed)
  · exact lacks knows
  · exact lacks knows
  · cases term <;> simp [opening, closing, Key.Before, Term.rank] at reversed

theorem yearsBetween_self (year : Year) : yearsBetween year year = [year] := by
  simp [yearsBetween]

/-- A year or a term stands for the periods of its places. -/
theorem build_eq (calendar : Calendar) (year : Year) (term : Option Term) : calendar.build year term =
    (calendar.placesWithin ⟨year, term, none⟩ ⟨year, term, none⟩).map Place.period := by
  have chosen : calendar.placesWithin ⟨year, term, none⟩ ⟨year, term, none⟩ =
      (calendar.placesOf year Term.all).filter fun place => decide (term = none ∨ term = some place.term) := by
    unfold placesWithin placesAlong
    rw [yearsBetween_self, List.flatMap_singleton]
    refine List.filter_congr fun place among => ?_
    rw [Bool.eq_iff_iff, between_bare, decide_eq_true_iff, and_iff_right (mem_placesOf.mp among).1]
  rw [chosen]
  unfold build
  rw [periodsOf_eq]
  congr 1
  cases term with
  | none => simp
  | some own => cases own <;> simp [placesOf, Term.all, List.filter_map, Function.comp_def]

/-- **A range gives the periods between its ends.** Whatever columns the calendar lists, none or one of them twice: a
range is refused, as a caller's mistake, just where it names a column that the calendar lacks or ends before it starts.
Otherwise it gives the periods of all places from where its start starts to where its end ends and of no others, in
ascending order and each place once. From a year or a term to itself it gives what the calendar builds of it. -/
theorem range_gives_places (calendar : Calendar) (since upto : Period) :
    ((∃ defect, calendar.range since upto = .error defect ∧ defect.fault.kind = .invalid) ↔
      calendar.Refuses since upto) ∧
    (¬calendar.Refuses since upto → ∃ places : List calendar.Place,
      calendar.range since upto = .ok (places.map Place.period) ∧ places.Pairwise Place.Before ∧
        ∀ place, place ∈ places ↔ between (calendar.opening since) (calendar.closing upto) place.key = true) ∧
    ∀ year term, calendar.range ⟨year, term, none⟩ ⟨year, term, none⟩ = .ok (calendar.build year term) := by
  refine ⟨⟨?_, ?_⟩, ?_, ?_⟩
  · rintro ⟨defect, refused, -⟩
    by_contra accepts
    rw [range_of_not_refuses accepts] at refused
    cases refused
  · intro refuses
    obtain ⟨defect, refused⟩ := range_of_refuses refuses
    exact ⟨defect, refused, rfl⟩
  · intro accepts
    exact ⟨_, range_of_not_refuses accepts, (placesAlong_ascend _ _ _).filter _, fun _ => mem_placesWithin⟩
  · intro year term
    rw [build_eq]
    exact range_of_not_refuses (not_refuses_bare calendar year term)

/-- The last summer that there is, from its second column on, in a calendar that lists a column twice. -/
theorem range_gives_places_last_summer :
    let calendar : Calendar := ⟨["Test", "Exam", "Test"]⟩
    let since : Period := .full 2147483647 .summer "Exam"
    let upto : Period := .ofYear 2147483647
    ¬calendar.Refuses since upto ∧
      ∃ places : List calendar.Place, places.map Place.period = [since, .full 2147483647 .summer "Test"] ∧
        places.Pairwise Place.Before ∧
        ∀ place, place ∈ places ↔ between (calendar.opening since) (calendar.closing upto) place.key = true := by
  intro calendar since upto
  have walks : calendar.range since upto = .ok [since, .full 2147483647 .summer "Test"] := by decide +kernel
  obtain ⟨refused, gives, -⟩ := range_gives_places calendar since upto
  have accepts : ¬calendar.Refuses since upto := by
    intro refuses
    obtain ⟨defect, fails, -⟩ := refused.mpr refuses
    rw [walks] at fails
    cases fails
  obtain ⟨places, given, rest⟩ := gives accepts
  exact ⟨accepts, places, Except.ok.inj (given.symm.trans walks), rest⟩

end Calendar

end Gradebook
