import Gradebook.Refresh

/-! The pupils of a request. A request that is accepted covers consecutive numbers none of which runs past the
largest, so no number comes twice. They are the numbers that come one after the other from the first on; a request is
refused where these would end before there are as many as it asks for. -/

namespace Gradebook

variable {request : RefreshStudents} {pupils : PupilRange} {i j : Nat}

/-- No number of the range runs past the largest. -/
def PupilRange.Fits (r : PupilRange) : Prop := ∀ i < r.count, r.start.toInt + i ≤ PupilId.largest

theorem RefreshStudents.fits_of_pupils (h : request.pupils = .ok pupils) : pupils.Fits := by
  unfold RefreshStudents.pupils at h
  split at h
  · cases h
  · next within =>
    cases h
    intro i hi
    simp only at hi ⊢
    omega

/-- The numbers that a request asks for, also where they run too far. -/
def RefreshStudents.range (request : RefreshStudents) : PupilRange := ⟨request.start, request.count.toNat⟩

theorem RefreshStudents.pupils_of_fits (fits : request.range.Fits) : request.pupils = .ok request.range := by
  unfold RefreshStudents.pupils
  refine if_neg ?_
  rintro ⟨some, beyond⟩
  have last := fits (request.count.toNat - 1) (Nat.sub_lt some Nat.one_pos)
  simp only [RefreshStudents.range] at last
  omega

theorem RefreshStudents.pupils_of_not_fits (beyond : ¬request.range.Fits) :
    request.pupils = .error request.tooFar := by
  cases hpupils : request.pupils with
  | ok pupils =>
      have fits := RefreshStudents.fits_of_pupils hpupils
      unfold RefreshStudents.pupils at hpupils
      split at hpupils <;> cases hpupils
      exact absurd fits beyond
  | error fault =>
      unfold RefreshStudents.pupils at hpupils
      split at hpupils <;> cases hpupils
      rfl

theorem RefreshStudents.count_of_pupils (h : request.pupils = .ok pupils) :
    pupils.count = request.count.toNat := by
  unfold RefreshStudents.pupils at h
  split at h <;> cases h
  rfl

namespace PupilRange

theorem get_toInt (fits : pupils.Fits) (hi : i < pupils.count) :
    (pupils.get i).toInt = pupils.start.toInt + i := by
  have low := Int64.le_toInt pupils.start
  have high := fits i hi
  rw [PupilId.largest, Int64.toInt_maxValue] at high
  unfold get
  rw [Int64.toInt_ofInt_of_le]
  · omega
  · omega

theorem get_injective (fits : pupils.Fits) (hi : i < pupils.count) (hj : j < pupils.count)
    (same : pupils.get i = pupils.get j) : i = j := by
  have hnumber := congrArg Int64.toInt same
  rw [get_toInt fits hi, get_toInt fits hj] at hnumber
  omega

theorem take_of_le {k : Nat} (within : k ≤ pupils.count) :
    pupils.take k = (List.range' 0 k).map pupils.get := by
  rw [take, Nat.min_eq_left within, List.range_eq_range']

theorem mem_take {k : Nat} (within : k ≤ pupils.count) {pid : PupilId} :
    pid ∈ pupils.take k ↔ ∃ i < k, pupils.get i = pid := by
  simp [take_of_le within]

theorem mem_take_succ (hi : i < pupils.count) {pid : PupilId} :
    pid ∈ pupils.take (i + 1) ↔ pid = pupils.get i ∨ pid ∈ pupils.take i := by
  simp only [mem_take hi, mem_take (Nat.le_of_lt hi), Nat.lt_succ_iff_lt_or_eq, or_and_right, exists_or, exists_eq_left]
  rw [or_comm, eq_comm]

/-- No number comes again. -/
theorem get_not_mem_take (fits : pupils.Fits) (hi : i < pupils.count) : pupils.get i ∉ pupils.take i := by
  intro again
  obtain ⟨j, hj, same⟩ := (mem_take (Nat.le_of_lt hi)).mp again
  have := get_injective fits (by omega) hi same
  omega

theorem get_mem_toList (hi : i < pupils.count) : pupils.get i ∈ pupils.toList :=
  (mem_take (Nat.le_refl _)).mpr ⟨i, hi, rfl⟩

theorem take_subset_toList (pupils : PupilRange) (k : Nat) : pupils.take k ⊆ pupils.toList := by
  unfold toList take
  apply List.map_subset
  intro i hi
  rw [List.mem_range] at hi ⊢
  omega

theorem length_take_of_le {k : Nat} (within : k ≤ pupils.count) : (pupils.take k).length = k := by
  rw [take_of_le within, List.length_map, List.length_range']

theorem toList_eq (pupils : PupilRange) : pupils.toList = (List.range' 0 pupils.count).map pupils.get :=
  take_of_le (Nat.le_refl pupils.count)

theorem toList_nodup (fits : pupils.Fits) : pupils.toList.Nodup := by
  rw [toList_eq]
  refine List.pairwise_map.mpr (List.Pairwise.imp_of_mem ?_ (List.nodup_range' 1))
  intro i j hi hj apart same
  rw [List.mem_range'_1] at hi hj
  exact apart (get_injective fits (by omega) (by omega) same)

theorem toList_toInt (fits : pupils.Fits) :
    pupils.toList.map Int64.toInt = (List.range pupils.count).map fun i : Nat => pupils.start.toInt + i := by
  rw [toList_eq, ← List.range_eq_range', List.map_map]
  apply List.map_congr_left
  intro i hi
  exact get_toInt fits (List.mem_range.mp hi)

/-- Whoever stops early has the first numbers of the range. -/
theorem take_eq (pupils : PupilRange) (k : Nat) : pupils.take k = pupils.toList.take k := by
  unfold toList take
  rw [Nat.min_self, ← List.map_take, List.take_range]

end PupilRange

/-! ### One number after the other -/

namespace PupilId

variable {pid : PupilId}

/-- A number and those that come next, at most so many and fewer where there is no next one. -/
def onwards : Nat → Option PupilId → List PupilId
  | 0, _ => []
  | _ + 1, none => []
  | count + 1, some pid => pid :: onwards count pid.next?

theorem next?_of_lt (below : pid.toInt < largest) : ∃ next, pid.next? = some next ∧ next.toInt = pid.toInt + 1 := by
  have low := Int64.le_toInt pid
  refine ⟨_, if_pos below, Int64.toInt_ofInt_of_le ?_ ?_⟩
  · omega
  · rw [largest, Int64.toInt_maxValue] at below
    omega

theorem onwards_none (count : Nat) : onwards count none = [] := by
  cases count <;> rfl

/-- The numbers go up by one, and they end at the largest. -/
theorem onwards_toInt (count : Nat) (pid : PupilId) : (onwards count (some pid)).map Int64.toInt =
    (List.range (min count (largest - pid.toInt + 1).toNat)).map fun i : Nat => pid.toInt + i := by
  induction count generalizing pid with
  | zero =>
      rw [Nat.zero_min]
      rfl
  | succ count ih =>
      have high : pid.toInt ≤ largest := pid.toInt_le
      obtain ⟨left, hleft⟩ : ∃ left : Nat, (largest - pid.toInt).toNat = left := ⟨_, rfl⟩
      have room : min (count + 1) (largest - pid.toInt + 1).toNat = min count left + 1 := by omega
      have later : (onwards count pid.next?).map Int64.toInt =
          (List.range (min count left)).map fun i : Nat => pid.toInt + 1 + i := by
        by_cases below : pid.toInt < largest
        · obtain ⟨next, hnext, number⟩ := next?_of_lt below
          have rest : (largest - next.toInt + 1).toNat = left := by omega
          rw [hnext, ih next, rest, number]
        · have last : left = 0 := by omega
          rw [next?, if_neg below, onwards_none, last, Nat.min_zero]
          rfl
      rw [onwards, List.map_cons, later, room, List.range_succ_eq_map, List.map_cons, List.map_map]
      congr 1
      · exact (Int.add_zero _).symm
      · apply List.map_congr_left
        intro i _
        simp only [Function.comp_apply, Nat.succ_eq_add_one]
        omega

theorem length_onwards (count : Nat) (pid : PupilId) :
    (onwards count (some pid)).length = min count (largest - pid.toInt + 1).toNat := by
  have numbers := congrArg List.length (onwards_toInt count pid)
  rwa [List.length_map, List.length_map, List.length_range] at numbers

end PupilId

namespace RefreshStudents

theorem fits_range_iff : request.range.Fits ↔
    request.count.toNat = 0 ∨ request.start.toInt + request.count.toNat - 1 ≤ PupilId.largest := by
  constructor
  · intro fits
    refine Decidable.or_iff_not_imp_left.mpr fun some => ?_
    have last := fits (request.count.toNat - 1) (Nat.sub_lt (Nat.pos_of_ne_zero some) Nat.one_pos)
    simp only [range] at last
    omega
  · intro inside i hi
    simp only [range] at hi ⊢
    omega

/-- An accepted range is what comes one after the other from its first number on. -/
theorem onwards_of_fits (fits : request.range.Fits) :
    request.range.toList = PupilId.onwards request.count.toNat (some request.start) := by
  apply (List.map_inj_right fun _ _ => Int64.toInt_inj.mp).mp
  have whole : min request.count.toNat (PupilId.largest - request.start.toInt + 1).toNat = request.count.toNat := by
    have := fits_range_iff.mp fits
    omega
  rw [PupilRange.toList_toInt fits, PupilId.onwards_toInt, whole]
  rfl

/-- **A request covers just its consecutive pupils.** It is accepted exactly where it asks for none or its last number is
not beyond the largest. The numbers are then the first, the one after it, and so on, as many as were asked for; they are
what taking the next number again and again comes upon, however early one stops. Where a request is refused, the next
numbers would end before there are so many. -/
theorem pupils_are_consecutive (request : RefreshStudents) :
    let first := request.start.toInt
    let count := request.count.toNat
    ((∃ pupils, request.pupils = .ok pupils) ↔ count = 0 ∨ first + count - 1 ≤ Int64.maxValue.toInt) ∧
      (∀ pupils, request.pupils = .ok pupils →
        pupils.toList.map Int64.toInt = (List.range count).map (fun i : Nat => first + i) ∧
        ∀ k, pupils.take k = (PupilId.onwards count (some request.start)).take k) ∧
      ∀ fault, request.pupils = .error fault → fault = request.tooFar ∧
        (PupilId.onwards count (some request.start)).length < count := by
  intro first count
  by_cases fits : request.range.Fits
  · rw [pupils_of_fits fits]
    refine ⟨iff_of_true ⟨_, rfl⟩ (fits_range_iff.mp fits), ?_, nofun⟩
    rintro _ ⟨⟩
    refine ⟨PupilRange.toList_toInt fits, fun k => ?_⟩
    rw [PupilRange.take_eq, onwards_of_fits fits]
  · rw [pupils_of_not_fits fits]
    refine ⟨iff_of_false nofun (mt fits_range_iff.mpr fits), nofun, ?_⟩
    rintro _ ⟨⟩
    refine ⟨rfl, ?_⟩
    have beyond := mt fits_range_iff.mpr fits
    have high : first ≤ PupilId.largest := request.start.toInt_le
    rw [PupilId.length_onwards]
    omega

/-- A range that ends at the largest number is complete. -/
example : (RefreshStudents.pupils ⟨9223372036854775805, 3, false⟩).toOption.map (·.toList) =
    some [9223372036854775805, 9223372036854775806, 9223372036854775807] := by decide +kernel

end RefreshStudents

end Gradebook
