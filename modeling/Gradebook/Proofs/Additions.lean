import Gradebook.Student
import Mathlib.Data.List.Nodup
import Mathlib.Data.List.Range

/-! Marks that are new to a list of marks. Of what is shown, the first mark of each name is new unless the name is known,
and nothing else is. Adding what is new leaves nothing to add, and it does not matter how often a known mark is
listed or where. -/

namespace Gradebook.Mark

variable {known : List String} {shown : List Mark} {name : String} {mark : Mark}

/-- The marks of a list that come first there under their name, for the names that are not known. -/
def firstsOf (known : List String) (shown : List Mark) : List Mark :=
  (shown.zipIdx.filter fun (mark, place) =>
    mark.subject.name ∉ known ∧ mark.subject.name ∉ (shown.take place).map (·.subject.name)).map (·.1)

theorem firstsOf_cons (known : List String) (mark : Mark) (rest : List Mark) :
    firstsOf known (mark :: rest) =
      (if mark.subject.name ∈ known then [] else [mark]) ++ firstsOf (mark.subject.name :: known) rest := by
  have later : ((rest.zipIdx 1).filter fun (m, place) => m.subject.name ∉ known ∧
      m.subject.name ∉ ((mark :: rest).take place).map (·.subject.name)).map (·.1) =
        firstsOf (mark.subject.name :: known) rest := by
    unfold firstsOf
    rw [List.zipIdx_succ, List.filter_map, List.map_map]
    congr 1
    apply List.filter_congr
    rintro ⟨m, place⟩ -
    simp only [List.take_succ_cons, List.map_cons, List.mem_cons, not_or, Function.comp_apply, and_assoc]
    exact decide_eq_decide.mpr and_left_comm
  unfold firstsOf at later ⊢
  rw [List.zipIdx_cons, List.filter_cons]
  by_cases hknown : mark.subject.name ∈ known
  · simpa [hknown] using later
  · simpa [hknown] using later

theorem firstsOf_congr {known' : List String} (same : ∀ name, name ∈ known ↔ name ∈ known') (shown : List Mark) :
    firstsOf known shown = firstsOf known' shown := by
  unfold firstsOf
  simp only [same]

theorem additionsTo_eq (known : List String) (shown : List Mark) :
    additionsTo known shown = firstsOf known shown := by
  induction shown generalizing known with
  | nil => rfl
  | cons mark rest ih =>
      unfold additionsTo
      rw [firstsOf_cons]
      by_cases hknown : mark.subject.name ∈ known
      · rw [if_pos hknown, if_pos hknown, ih, List.nil_append]
        apply firstsOf_congr
        intro name
        rw [List.mem_cons]
        exact ⟨Or.inr, fun h => h.elim (fun same => same ▸ hknown) fun other => other⟩
      · rw [if_neg hknown, if_neg hknown, ih]
        rfl

/-- The names that come first are those that are shown and not known. -/
theorem name_mem_firstsOf : name ∈ (firstsOf known shown).map (·.subject.name) ↔
    name ∈ shown.map (·.subject.name) ∧ name ∉ known := by
  induction shown generalizing known with
  | nil => simp [firstsOf]
  | cons mark rest ih =>
      rw [firstsOf_cons, List.map_append, List.mem_append, ih, List.map_cons, List.mem_cons, List.mem_cons]
      by_cases same : name = mark.subject.name
      · by_cases hknown : mark.subject.name ∈ known
        · simp [same, hknown]
        · simp [same, hknown]
      · split <;> simp [same]

/-- No name comes twice among those that come first. -/
theorem nodup_firstsOf (known : List String) (shown : List Mark) :
    ((firstsOf known shown).map (·.subject.name)).Nodup := by
  induction shown generalizing known with
  | nil => exact List.nodup_nil
  | cons mark rest ih =>
      rw [firstsOf_cons]
      split
      · exact ih _
      · refine List.nodup_cons.mpr ⟨?_, ih _⟩
        intro again
        exact (name_mem_firstsOf.mp again).2 List.mem_cons_self

theorem firstsOf_eq_nil (all : ∀ mark ∈ shown, mark.subject.name ∈ known) : firstsOf known shown = [] := by
  rw [← List.map_eq_nil_iff (f := fun mark : Mark => mark.subject.name), List.eq_nil_iff_forall_not_mem]
  intro name hname
  obtain ⟨hshown, hnew⟩ := name_mem_firstsOf.mp hname
  obtain ⟨mark, hmark, rfl⟩ := List.mem_map.mp hshown
  exact hnew (all mark hmark)

/-- Of each name that is not known, the first mark that is shown comes first, and no other. -/
theorem filter_firstsOf (known : List String) (shown : List Mark) (name : String) :
    (firstsOf known shown).filter (·.subject.name == name) =
      if name ∈ known then [] else (shown.find? (·.subject.name == name)).toList := by
  induction shown generalizing known with
  | nil =>
      rw [List.find?_nil, Option.toList_none, ite_self]
      rfl
  | cons mark rest ih =>
      rw [firstsOf_cons, List.filter_append, ih]
      by_cases same : mark.subject.name = name
      · subst same
        have found : (mark :: rest).find? (·.subject.name == mark.subject.name) = some mark :=
          List.find?_cons_of_pos (beq_self_eq_true _)
        rw [if_pos List.mem_cons_self, List.append_nil, found]
        split
        · rfl
        · exact List.filter_cons_of_pos (beq_self_eq_true _)
      · have other : ¬(mark.subject.name == name) = true := mt beq_iff_eq.mp same
        have found : (mark :: rest).find? (·.subject.name == name) = rest.find? (·.subject.name == name) :=
          List.find?_cons_of_neg other
        have none : (if mark.subject.name ∈ known then [] else [mark]).filter (·.subject.name == name) = [] := by
          split
          · rfl
          · exact List.filter_cons_of_neg other
        rw [none, List.nil_append, found]
        simp only [List.mem_cons, Ne.symm same, false_or]

theorem mem_of_mem_firstsOf (hmark : mark ∈ firstsOf known shown) : mark ∈ shown := by
  unfold firstsOf at hmark
  obtain ⟨⟨m, place⟩, hm, rfl⟩ := List.mem_map.mp hmark
  exact List.fst_mem_of_mem_zipIdx (List.mem_filter.mp hm).1

/-- The mark at a place of a list is the first there under its name, and the name is not known. -/
def IsFirst (known : List String) (shown : List Mark) (place : Nat) : Prop :=
  ∃ mark, shown[place]? = some mark ∧ mark.subject.name ∉ known ∧
    ∀ earlier ∈ shown.take place, earlier.subject.name ≠ mark.subject.name

/-- The marks that come first stand at the places of the first marks, one after the other. -/
theorem firstsOf_places (known : List String) (shown : List Mark) :
    ∃ places : List Nat, places.Pairwise (· < ·) ∧ (∀ place, place ∈ places ↔ IsFirst known shown place) ∧
      (firstsOf known shown).map some = places.map (shown[·]?) := by
  let kept := shown.zipIdx.filter fun (mark, place) =>
    mark.subject.name ∉ known ∧ mark.subject.name ∉ (shown.take place).map (·.subject.name)
  have ascend : (shown.zipIdx.map Prod.snd).Pairwise (· < ·) := by
    rw [List.zipIdx_map_snd]
    exact List.pairwise_lt_range'
  refine ⟨kept.map Prod.snd, ascend.sublist (List.filter_sublist.map _), fun place => ?_, ?_⟩
  · have first (mark : Mark) : mark.subject.name ∉ (shown.take place).map (·.subject.name) ↔
        ∀ earlier ∈ shown.take place, earlier.subject.name ≠ mark.subject.name := by
      rw [List.mem_map]
      push Not
      rfl
    constructor
    · intro kept
      obtain ⟨⟨mark, _⟩, hkept, rfl⟩ := List.mem_map.mp kept
      obtain ⟨stands, new⟩ := List.mem_filter.mp hkept
      obtain ⟨unknown, alone⟩ := of_decide_eq_true new
      exact ⟨mark, List.mk_mem_zipIdx_iff_getElem?.mp stands, unknown, (first mark).mp alone⟩
    · rintro ⟨mark, stands, unknown, alone⟩
      refine List.mem_map.mpr ⟨(mark, place), List.mem_filter.mpr ⟨?_, ?_⟩, rfl⟩
      · exact List.mk_mem_zipIdx_iff_getElem?.mpr stands
      · exact decide_eq_true ⟨unknown, (first mark).mpr alone⟩
  · rw [firstsOf, List.map_map, List.map_map]
    apply List.map_congr_left
    rintro ⟨mark, place⟩ hkept
    exact (List.mk_mem_zipIdx_iff_getElem?.mp (List.mem_filter.mp hkept).1).symm

theorem additions_eq (stored shown : List Mark) :
    additions stored shown = firstsOf (stored.map (·.subject.name)) shown :=
  additionsTo_eq _ shown

/-- **What is new comes first under its name.** The additions are the marks at just those places of the list shown where a
name stands for the first time that no stored mark has, in the order of the list: one mark for each such name, the
first. With them there is nothing left to add, and of the stored marks only the names matter. -/
theorem additions_come_first (stored shown : List Mark) :
    let added := additions stored shown
    (∃ places : List Nat, places.Pairwise (· < ·) ∧
      (∀ place, place ∈ places ↔ IsFirst (stored.map (·.subject.name)) shown place) ∧
      added.map some = places.map (shown[·]?)) ∧
    (∀ name, added.filter (·.subject.name == name) =
      if name ∈ stored.map (·.subject.name) then [] else (shown.find? (·.subject.name == name)).toList) ∧
    additions (stored ++ added) shown = [] ∧
    ∀ other : List Mark, (∀ name, name ∈ other.map (·.subject.name) ↔ name ∈ stored.map (·.subject.name)) →
      additions other shown = added := by
  intro added
  have firsts : added = firstsOf (stored.map (·.subject.name)) shown := additions_eq stored shown
  refine ⟨?_, ?_, ?_, ?_⟩
  · rw [firsts]
    exact firstsOf_places _ shown
  · rw [firsts]
    exact filter_firstsOf _ shown
  · rw [additions_eq]
    apply firstsOf_eq_nil
    intro mark hmark
    rw [List.map_append, List.mem_append, or_iff_not_imp_left, firsts]
    exact fun new => name_mem_firstsOf.mpr ⟨List.mem_map_of_mem hmark, new⟩
  · intro other same
    rw [firsts, additions_eq]
    exact firstsOf_congr same shown

end Gradebook.Mark
