import Gradebook.Proofs.Store.Built
import Gradebook.Proofs.Store.Lookup

/-! Results page by page. Whoever asks for one page after the other, each as far behind the one before as a page is long,
and stops at the first that is empty, has read the whole result: every record once, and in the order of the keys. A limit
or an offset below zero asks for the same as none. -/

namespace Gradebook

/-- The page without a limit or an offset is the whole. -/
theorem IsPage.eq_all {α : Type} {all shown : List α} (onPage : IsPage none none all shown) :
    shown = all := by
  ext1 i
  have same := onPage.within i nofun
  rwa [Option.getD_none, Int.toNat_zero, Nat.zero_add] at same

namespace Store

/-- A query that may be asked with any limit and offset. -/
abbrev Paging (α : Type) := Option Int → Option Int → Except Error (List α)

/-- The pages of one size from an offset on, read up to the first that is empty. -/
inductive PagesFrom {α : Type} (find : Paging α) (size : Int) : Int → List (List α) → Prop where
  | last {offset : Int} (empty : find (some size) (some offset) = .ok []) : PagesFrom find size offset []
  | next {offset : Int} {shown : List α} {pages : List (List α)} (shows : find (some size) (some offset) = .ok shown)
      (more : shown ≠ []) (rest : PagesFrom find size (offset + size) pages) :
      PagesFrom find size offset (shown :: pages)

/-- A query whose whole result is a list. It can be asked for any page of the list, a negative limit or offset is none, and
pages of any size can be read to their end and make up the list. -/
structure Paged {α : Type} (find : Paging α) (all : List α) : Prop where
  page : ∀ limit offset, ∃ shown, find limit offset = .ok shown ∧ IsPage limit offset all shown
  unlimited : ∀ limit < 0, ∀ offset, find (some limit) offset = find none offset
  fromStart : ∀ offset ≤ 0, ∀ limit, find limit (some offset) = find limit none
  readable : ∀ size ≥ 1, ∃ pages, PagesFrom find size 0 pages
  complete : ∀ size ≥ 1, ∀ pages, PagesFrom find size 0 pages → pages.flatten = all

section

variable {α β : Type} {find : Paging α} {all : List α} {pages : List (List α)} {size offset : Int}

/-! ### One page -/

theorem page_none (xs : List α) : page none none xs = xs := rfl

theorem page_unlimited {limit : Int} (negative : limit < 0) (offset : Option Int) (xs : List α) :
    page (some limit) offset xs = page none offset xs :=
  if_pos negative

theorem page_fromStart (before : offset ≤ 0) (limit : Option Int) (xs : List α) :
    page limit (some offset) xs = page limit none xs := by
  have start : offset.toNat = 0 := Int.toNat_of_nonpos before
  unfold page
  rw [Option.getD_some, start]
  rfl

theorem page_some (natural : 0 ≤ size) (offset : Int) (xs : List α) :
    page (some size) (some offset) xs = (xs.drop offset.toNat).take size.toNat :=
  if_neg (Int.not_lt.mpr natural)

/-- What is told of the rows on a page is the page of what is told of all rows. -/
theorem mapM_page {tell : α → Except Error β} {rows : List α} {told : List β} (tells : rows.mapM tell = .ok told)
    (limit offset : Option Int) : (page limit offset rows).mapM tell = .ok (page limit offset told) :=
  mapM_eq_ok.mpr (forall₂_page (mapM_eq_ok.mp tells) limit offset)

/-! ### One page after the other -/

variable (asks : ∀ limit offset, find limit offset = .ok (page limit offset all))
include asks

/-- The pages from an offset on are there, for each that is not empty leaves less of the list. -/
theorem exists_pagesFrom (positive : 1 ≤ size) (offset : Int) (natural : 0 ≤ offset) :
    ∃ pages, PagesFrom find size offset pages := by
  have shows := asks (some size) (some offset)
  rw [page_some (by omega)] at shows
  by_cases more : (all.drop offset.toNat).take size.toNat = []
  · rw [more] at shows
    exact ⟨[], .last shows⟩
  · have inside : offset.toNat < all.length := by
      by_contra beyond
      rw [List.drop_eq_nil_of_le (not_lt.mp beyond), List.take_nil] at more
      exact more rfl
    obtain ⟨pages, rest⟩ := exists_pagesFrom positive (offset + size) (by omega)
    exact ⟨_, .next shows more rest⟩
  termination_by all.length - offset.toNat

/-- The pages from an offset on make up what the list has from there on. -/
theorem PagesFrom.flatten_eq (reads : PagesFrom find size offset pages) (positive : 1 ≤ size) (natural : 0 ≤ offset) :
    pages.flatten = all.drop offset.toNat := by
  induction reads with
  | @last offset empty =>
      rw [asks, page_some (by omega), Except.ok.injEq, List.take_eq_nil_iff] at empty
      exact (empty.resolve_left (by omega)).symm
  | @next offset shown pages shows more rest ih =>
      rw [asks, page_some (by omega), Except.ok.injEq] at shows
      have behind : (offset + size).toNat = offset.toNat + size.toNat := by omega
      calc (shown :: pages).flatten
        _ = shown ++ pages.flatten := List.flatten_cons
        _ = shown ++ (all.drop offset.toNat).drop size.toNat := by rw [ih (by omega), behind, List.drop_drop]
        _ = all.drop offset.toNat := by rw [← shows, List.take_append_drop]

theorem paged_of_asks : Paged find all where
  page limit offset := ⟨_, asks limit offset, isPage_page limit offset all⟩
  unlimited limit negative offset := by rw [asks, asks, page_unlimited negative]
  fromStart offset before limit := by rw [asks, asks, page_fromStart before]
  readable size positive := exists_pagesFrom asks positive 0 (Int.le_refl 0)
  complete size positive pages reads := reads.flatten_eq asks positive (Int.le_refl 0)

end

/-! ### Queries -/

variable {s : Store} {marks : List Mark} {students : List Student}

/-- A query for marks that tells all it selects tells any page of it. -/
theorem findMarks_paged (f : MarksFilter) (whole : findMarks { f with limit := none, offset := none } s = .ok marks) :
    Paged (fun limit offset => findMarks { f with limit, offset } s) marks := by
  apply paged_of_asks
  intro limit offset
  unfold findMarks at whole ⊢
  split at whole
  · cases whole
  · next shallow => exact (if_neg shallow).trans (mapM_page whole limit offset)

theorem findStudents_paged (f : StudentFilter)
    (whole : findStudents { f with limit := none, offset := none } s = .ok students) :
    Paged (fun limit offset => findStudents { f with limit, offset } s) students := by
  apply paged_of_asks
  intro limit offset
  exact mapM_page whole limit offset

/-- What a filter selects is the same whatever page it asks for. -/
theorem Sound.selects_of_whole (h : s.Sound) (f : MarksFilter)
    (whole : findMarks { f with limit := none, offset := none } s = .ok marks) : s.Selects f.Meets marks := by
  have shallow : ({ f with limit := none, offset := none } : MarksFilter).isTooDeep = false := by
    cases deep : ({ f with limit := none, offset := none } : MarksFilter).isTooDeep with
    | false => rfl
    | true =>
        rw [findMarks_of_tooDeep deep] at whole
        cases whole
  obtain ⟨all, told, selects⟩ := h.findMarks_selects shallow
  rw [page_none, whole] at told
  cases told
  exact selects.congr fun mark _ =>
    ⟨fun ⟨id, pid, subject, period⟩ => ⟨id, pid, subject, period⟩,
      fun ⟨id, pid, subject, period⟩ => ⟨id, pid, subject, period⟩⟩

theorem Sound.lists_of_whole (h : s.Sound) (f : StudentFilter)
    (whole : findStudents { f with limit := none, offset := none } s = .ok students) : s.Lists f.Meets students := by
  obtain ⟨all, shown, told, onPage, lists⟩ := h.findStudents_lists { f with limit := none, offset := none }
  rw [whole] at told
  cases told
  rw [onPage.eq_all]
  refine ⟨lists.ascend, fun student => (lists.mem_iff student).trans (and_congr_right fun _ => ?_)⟩
  exact ⟨fun ⟨pid, year, attends, subject⟩ => ⟨pid, year, attends, subject⟩,
    fun ⟨pid, year, attends, subject⟩ => ⟨pid, year, attends, subject⟩⟩

/-- **Pages partition a result.** In a store that operations built, wherever a query for marks or for students succeeds
without a limit and an offset, it gives all records that meet its filter, each once and in the order of their keys. With
any limit and offset it gives the page of these that is asked for, a negative one counting as none, and pages of one size
that are read from the start up to the first that is empty are, one after the other, just this result. -/
theorem results_come_in_pages (h : Built s) :
    (∀ (f : MarksFilter) (all : List Mark), findMarks { f with limit := none, offset := none } s = .ok all →
      s.Selects f.Meets all ∧ Paged (fun limit offset => findMarks { f with limit, offset } s) all) ∧
    ∀ (f : StudentFilter) (all : List Student), findStudents { f with limit := none, offset := none } s = .ok all →
      s.Lists f.Meets all ∧ Paged (fun limit offset => findStudents { f with limit, offset } s) all := by
  constructor
  · intro f all whole
    exact ⟨h.sound.selects_of_whole f whole, findMarks_paged f whole⟩
  · intro f all whole
    exact ⟨h.sound.lists_of_whole f whole, findStudents_paged f whole⟩

/-- Three pupils, of whom the first has marks in three columns. -/
def threePupilStore : Store :=
  let pupil (pid : PupilId) (name : String) : Operation := .createStudent
    { pid, name, currentYear := some 9, attends := true, subjects := [⟨none, "AR", "Art"⟩] }
  let mark (column : String) : Operation := .createMark
    { pid := 7, subject := ⟨some 1, "AR", "Art"⟩, teacher := "Ms Lee", percentage := ⟨83, by decide⟩,
      period := .full 2024 .autumn column }
  List.foldl Operation.perform {}
    [pupil 9 "Cy", pupil 7 "Ada", pupil 8 "Bo", mark "Test", mark "Exam", mark "Essay"]

/-- Two pages of two make up three marks, and so do a page of three pupils and an empty one. -/
theorem results_come_in_pages_of_three :
    let marks : Paging Mark := fun limit offset =>
      findMarks { pid := some 7, periods := [.ofYear 2024], limit, offset } threePupilStore
    let students : Paging Student := fun limit offset =>
      findStudents { attends := some true, limit, offset } threePupilStore
    Built threePupilStore ∧
      (∃ all pages, marks none none = .ok all ∧ PagesFrom marks 2 0 pages ∧ pages.flatten = all ∧
        all.map (·.id) = [some 1, some 2, some 3]) ∧
      ∃ all pages, students none none = .ok all ∧ PagesFrom students 3 0 pages ∧ pages.flatten = all ∧
        all.map (·.pid) = [7, 8, 9] := by
  intro marks students
  have built : Built threePupilStore := (Built.empty .epoch).after _
  obtain ⟨pagesMarks, pagesStudents⟩ := results_come_in_pages built
  obtain ⟨allMarks, toldMarks, ids⟩ := exists_of_toOption_map
    (show (marks none none).toOption.map (·.map (·.id)) = some [some 1, some 2, some 3] by decide +kernel)
  obtain ⟨allStudents, toldStudents, pids⟩ := exists_of_toOption_map
    (show (students none none).toOption.map (·.map (·.pid)) = some [7, 8, 9] by decide +kernel)
  obtain ⟨-, markPages⟩ := pagesMarks { pid := some 7, periods := [.ofYear 2024] } _ toldMarks
  obtain ⟨-, studentPages⟩ := pagesStudents { attends := some true } _ toldStudents
  obtain ⟨twos, readsTwos⟩ := markPages.readable 2 (by decide)
  obtain ⟨threes, readsThrees⟩ := studentPages.readable 3 (by decide)
  exact ⟨built, ⟨_, twos, toldMarks, readsTwos, markPages.complete 2 (by decide) _ readsTwos, ids⟩,
    _, threes, toldStudents, readsThrees, studentPages.complete 3 (by decide) _ readsThrees, pids⟩

end Store

end Gradebook
