import Gradebook.Proofs.Marksheet.Resumption

/-! Reading a marksheet by byte offsets. A cursor is an absolute offset, and everything that is looked for behind it is
found at an offset relative to some slice. A slice is refused where its ends lie outside the text or inside a character.
A reader that works with cursors and slices alone is never refused one, at whatever offset it starts, and it reads the
same entries. -/

namespace Gradebook.Marksheet

open Text (trimChars)

/-- A computation with slices: it may be refused one, or fail with an error of its own. -/
abbrev Sliced (α : Type) := ExceptT Error Option α

/-- The characters in a number of bytes at the start, if they end where a character ends. -/
def takeBytes : Nat → List Char → Option (List Char)
  | 0, _ => some []
  | _ + 1, [] => none
  | n + 1, c :: cs => if c.utf8Size ≤ n + 1 then (takeBytes (n + 1 - c.utf8Size) cs).map (c :: ·) else none

/-- The slice from an offset on. -/
def sliceFrom (low : Nat) (cs : List Char) : Sliced (List Char) := ExceptT.lift (dropBytes low cs)

/-- The slice between two offsets. -/
def sliceBetween (low high : Nat) (cs : List Char) : Sliced (List Char) :=
  ExceptT.lift (if low ≤ high then (dropBytes low cs).bind (takeBytes (high - low)) else none)

/-- The offset of a character where it comes first. -/
def find? (c : Char) : List Char → Option Nat
  | [] => none
  | d :: rest => if d = c then some 0 else (find? c rest).map (d.utf8Size + ·)

/-- The offset of a character where it comes last. -/
def findLast? (c : Char) : List Char → Option Nat
  | [] => none
  | d :: rest =>
    match findLast? c rest with
    | some n => some (d.utf8Size + n)
    | none => if d = c then some 0 else none

/-- The text between the next two commas, and how far it is to the second. -/
def subjectAfter (cs : List Char) (place : Nat) : Sliced (String × Nat) := do
  let rest ← sliceFrom place cs
  match find? ',' rest with
  | none => throw (.layout place "no comma after percentage")
  | some first =>
    let behind ← sliceFrom (first + 1) rest
    let start := first + 1 + (dropSpace behind).1
    let named ← sliceFrom start rest
    match find? ',' named with
    | none => throw (.layout (place + start) "no comma after subject")
    | some len =>
      let body ← sliceBetween start (start + len) rest
      if (trimChars body).isEmpty then throw (.layout (place + start) "empty subject")
      else pure (String.ofList (trimChars body), start + len)

/-- The text after the last comma before the next tag, and how far it is to the tag. -/
def teacherAfter (cs : List Char) (place : Nat) : Sliced (String × Nat) := do
  let rest ← sliceFrom place cs
  match find? '<' rest with
  | none => throw (.layout place "no tag after subject")
  | some tag =>
    let front ← sliceBetween 0 tag rest
    match findLast? ',' front with
    | none => throw (.layout place "no comma before teacher")
    | some comma =>
      let teacher ← sliceBetween (comma + 1) tag rest
      pure (String.ofList (trimChars teacher), tag)

/-- The first entry at or after a cursor, and the cursor to resume from. -/
def entrySliced (text : String) (offset : Nat) : Sliced (Entry × Nat) := do
  if (⟨offset⟩ : String.Pos.Raw).isValid text then
    let rest ← sliceFrom offset text.toList
    match findPercentage 0 rest with
    | none => throw (.notFound "percentage")
    | some (digits, past, _) =>
      let percentage ← ExceptT.mk (some (percentageOf digits))
      let cursor := offset + past
      let (subject, toComma) ← subjectAfter text.toList cursor
      let cursor := cursor + toComma
      let (teacher, toTag) ← teacherAfter text.toList cursor
      pure (⟨subject, teacher, percentage⟩, cursor + toTag)
  else throw (.layout offset "offset outside render")

variable {cs xs ys before lead body tail after : List Char} {c : Char} {offset resume : Nat} {text : String}
variable {entry : Entry} {e : Error}

/-! ### Slices -/

theorem takeBytes_width (xs ys : List Char) : takeBytes (width xs) (xs ++ ys) = some xs := by
  induction xs with
  | nil => rw [width, takeBytes]
  | cons x rest ih =>
      obtain ⟨n, hn⟩ := Nat.exists_eq_succ_of_ne_zero (Nat.ne_of_gt (Nat.add_pos_left x.utf8Size_pos (width rest)))
      rw [width, hn, List.cons_append, takeBytes]
      have fits : x.utf8Size ≤ n + 1 := by omega
      have left : n + 1 - x.utf8Size = width rest := by omega
      rw [if_pos fits, left, ih, Option.map_some]

theorem sliceFrom_width (xs ys : List Char) : sliceFrom (width xs) (xs ++ ys) = pure ys := by
  rw [sliceFrom, dropBytes_width]
  rfl

theorem sliceBetween_width (before xs ys : List Char) :
    sliceBetween (width before) (width before + width xs) (before ++ (xs ++ ys)) = pure xs := by
  rw [sliceBetween, if_pos (Nat.le_add_right _ _), dropBytes_width, Nat.add_sub_cancel_left, Option.bind_some,
    takeBytes_width]
  rfl

theorem find?_absent (absent : c ∉ cs) : find? c cs = none := by
  induction cs with
  | nil => rfl
  | cons d rest ih =>
      obtain ⟨hd, hrest⟩ := List.ne_and_not_mem_of_not_mem_cons absent
      rw [find?, if_neg hd.symm, ih hrest, Option.map_none]

theorem find?_append (absent : c ∉ xs) (ys : List Char) : find? c (xs ++ c :: ys) = some (width xs) := by
  induction xs with
  | nil => exact if_pos rfl
  | cons d rest ih =>
      obtain ⟨hd, hrest⟩ := List.ne_and_not_mem_of_not_mem_cons absent
      rw [List.cons_append, find?, if_neg hd.symm, ih hrest, Option.map_some, width]

theorem findLast?_absent (absent : c ∉ cs) : findLast? c cs = none := by
  induction cs with
  | nil => rfl
  | cons d rest ih =>
      obtain ⟨hd, hrest⟩ := List.ne_and_not_mem_of_not_mem_cons absent
      rw [findLast?, ih hrest]
      exact if_neg hd.symm

theorem findLast?_append (xs : List Char) (absent : c ∉ ys) : findLast? c (xs ++ c :: ys) = some (width xs) := by
  induction xs with
  | nil =>
      rw [List.nil_append, findLast?, findLast?_absent absent]
      exact if_pos rfl
  | cons d rest ih => rw [List.cons_append, findLast?, ih, width]

/-- What stands behind the last comma of a text holds no comma. -/
theorem lastPiece_split (cs : List Char) : ∃ front, ',' :: cs = front ++ ',' :: lastPiece cs ∧ ',' ∉ lastPiece cs := by
  by_cases comma : ',' ∈ cs.reverse
  · obtain ⟨back, front, split, absent⟩ := List.eq_append_cons_of_mem comma
    have whole : cs = front.reverse ++ ',' :: back.reverse := by
      rw [← List.reverse_reverse cs, split]
      simp
    rw [← List.mem_reverse] at absent
    rw [whole, lastPiece_append _ absent]
    exact ⟨',' :: front.reverse, rfl, absent⟩
  · rw [List.mem_reverse] at comma
    rw [lastPiece_absent comma]
    exact ⟨[], rfl, comma⟩

/-! ### The subject -/

theorem width_concat (xs : List Char) (c : Char) : width (xs ++ [c]) = width xs + c.utf8Size := by
  rw [width_append]
  rfl

theorem sliceFrom_comma (lead rest : List Char) : sliceFrom (width lead + 1) (lead ++ ',' :: rest) = pure rest := by
  have comma := sliceFrom_width (lead ++ [',']) rest
  rwa [width_concat, List.append_assoc] at comma

theorem dropSpace_split (cs : List Char) :
    ∃ space, cs = space ++ (dropSpace cs).2 ∧ width space = (dropSpace cs).1 := by
  unfold dropSpace
  split
  · exact ⟨[' '], rfl, rfl⟩
  · exact ⟨[], rfl, rfl⟩

theorem sliceFrom_space (lead rest : List Char) :
    sliceFrom (width lead + 1 + (dropSpace rest).1) (lead ++ ',' :: rest) = pure (dropSpace rest).2 := by
  obtain ⟨space, split, wide⟩ := dropSpace_split rest
  have start : width (lead ++ [','] ++ space) = width lead + 1 + (dropSpace rest).1 := by
    rw [width_append, width_concat, wide]
    rfl
  have whole : lead ++ ',' :: rest = lead ++ [','] ++ space ++ (dropSpace rest).2 := by
    rw [List.append_assoc, ← split]
    simp
  rw [whole, ← start, sliceFrom_width]

theorem subjectAfter_noComma (absent : ',' ∉ cs) :
    subjectAfter (before ++ cs) (width before) = throw (.layout (width before) "no comma after percentage") := by
  rw [subjectAfter, sliceFrom_width, pure_bind, find?_absent absent]

theorem subjectAfter_oneComma (first : ',' ∉ lead) (absent : ',' ∉ after) :
    subjectAfter (before ++ (lead ++ ',' :: after)) (width before) =
      throw (.layout (width before + (width lead + 1 + (dropSpace after).1)) "no comma after subject") := by
  rw [subjectAfter, sliceFrom_width, pure_bind, find?_append first]
  simp only [sliceFrom_comma, pure_bind, sliceFrom_space, find?_absent (dropSpace_absent absent)]

theorem subjectAfter_between (first : ',' ∉ lead) (second : ',' ∉ body) (after : List Char) :
    subjectAfter (before ++ (lead ++ ',' :: (body ++ ',' :: after))) (width before) =
      if trimChars body = [] then
        throw (.layout (width before + (width lead + 1 + (dropSpace body).1)) "empty subject")
      else pure (String.ofList (trimChars body), width (lead ++ ',' :: body)) := by
  obtain ⟨shown, hshown, htrim, hwidth, hdrop⟩ := dropSpace_body second after
  obtain ⟨space, split, wide⟩ := dropSpace_split (body ++ ',' :: after)
  rw [hdrop] at split wide
  have start : width (lead ++ [','] ++ space) = width lead + 1 + (dropSpace body).1 := by
    rw [width_append, width_concat, wide]
    rfl
  have whole : lead ++ ',' :: (body ++ ',' :: after) = lead ++ [','] ++ space ++ (shown ++ ',' :: after) := by
    rw [List.append_assoc, ← split]
    simp
  have slice := sliceBetween_width (lead ++ [','] ++ space) shown (',' :: after)
  have place : width (lead ++ ',' :: body) = width lead + 1 + (dropSpace body).1 + width shown := by
    have comma : Char.utf8Size ',' = 1 := rfl
    rw [width_append, width, comma, hwidth]
    omega
  have named := sliceFrom_space lead (body ++ ',' :: after)
  rw [← whole, start] at slice
  rw [hdrop] at named
  rw [subjectAfter, sliceFrom_width, pure_bind, find?_append first]
  simp only [sliceFrom_comma, pure_bind, hdrop, named, find?_append hshown, slice, htrim, List.isEmpty_iff, place]

/-! ### The teacher -/

theorem teacherAfter_noTag (absent : '<' ∉ cs) :
    teacherAfter (before ++ cs) (width before) = throw (.layout (width before) "no tag after subject") := by
  rw [teacherAfter, sliceFrom_width, pure_bind, find?_absent absent]

theorem teacherAfter_tag (absent : '<' ∉ tail) (after : List Char) :
    teacherAfter (before ++ ',' :: (tail ++ '<' :: after)) (width before) =
      pure (String.ofList (trimChars (lastPiece tail)), width (',' :: tail)) := by
  obtain ⟨front, split, noComma⟩ := lastPiece_split tail
  have comma : '<' ∉ ',' :: tail := List.not_mem_cons_of_ne_of_not_mem (by decide) absent
  have start : width (front ++ [',']) = width front + 1 := width_concat front ','
  have whole : ',' :: tail ++ '<' :: after = front ++ [','] ++ (lastPiece tail ++ '<' :: after) := by
    rw [split]
    simp
  have place : width (',' :: tail) = width front + 1 + width (lastPiece tail) := by
    rw [split, ← start, ← width_append, List.append_assoc]
    rfl
  have ahead := sliceBetween_width [] (',' :: tail) ('<' :: after)
  have behind := sliceBetween_width (front ++ [',']) (lastPiece tail) ('<' :: after)
  rw [width, Nat.zero_add, List.nil_append] at ahead
  rw [← whole, start, ← place] at behind
  rw [teacherAfter, ← List.cons_append, sliceFrom_width, pure_bind, find?_append comma]
  have last : findLast? ',' (',' :: tail) = some (width front) := by
    rw [split]
    exact findLast?_append front noComma
  simp only [ahead, pure_bind, last, behind]

/-! ### Entries -/

/-- A character starts at an offset, or the text ends there, just where the text can be cut in two. -/
theorem isValid_iff : (⟨offset⟩ : String.Pos.Raw).IsValid text ↔
    ∃ before cs, text.toList = before ++ cs ∧ width before = offset := by
  rw [String.Pos.Raw.isValid_iff_exists_append]
  constructor
  · rintro ⟨head, rest, rfl, same⟩
    refine ⟨head.toList, rest.toList, String.toList_append, ?_⟩
    rw [← utf8ByteSize_eq]
    exact (congrArg String.Pos.Raw.byteIdx same).symm
  · rintro ⟨before, cs, whole, rfl⟩
    refine ⟨String.ofList before, String.ofList cs, ?_, ?_⟩
    · rw [← String.ofList_append, ← whole, String.ofList_toList]
    · rw [← utf8ByteSize_ofList]
      rfl

theorem dropBytes_eq_some {n : Nat} (drops : dropBytes n cs = some after) :
    ∃ before, cs = before ++ after ∧ width before = n := by
  induction n, cs using dropBytes.induct with
  | case1 cs =>
      obtain rfl : cs = after := by simpa [dropBytes] using drops
      exact ⟨[], rfl, rfl⟩
  | case2 n => simp [dropBytes] at drops
  | case3 n c rest fits ih =>
      rw [dropBytes, if_pos fits] at drops
      obtain ⟨before, rfl, wide⟩ := ih drops
      refine ⟨c :: before, rfl, ?_⟩
      rw [width, wide]
      omega
  | case4 n c rest exceeds =>
      rw [dropBytes, if_neg exceeds] at drops
      cases drops

theorem entryAt_outside (outside : ¬(⟨offset⟩ : String.Pos.Raw).IsValid text) :
    entryAt text offset = .error (.layout offset "offset outside render") := by
  rw [entryAt]
  cases drops : dropBytes offset text.toList with
  | none => rfl
  | some cs =>
      obtain ⟨before, whole, wide⟩ := dropBytes_eq_some drops
      exact absurd (isValid_iff.mpr ⟨before, cs, whole, wide⟩) outside

/-- The reading of a token by slices. -/
theorem entrySliced_token {filler digits : List Char} {tab : Tab}
    (whole : text.toList = before ++ (filler ++ (tab.chars ++ digits ++ after))) (free : TokenFree filler)
    (numeral : Numeral digits after) :
    let start := before ++ (filler ++ (tab.chars ++ digits))
    entrySliced text (width before) = (do
      let percentage ← ExceptT.mk (some (percentageOf digits))
      let (subject, toComma) ← subjectAfter (start ++ after) (width start)
      let (teacher, toTag) ← teacherAfter (start ++ after) (width start + toComma)
      pure (⟨subject, teacher, percentage⟩, width start + toComma + toTag)) := by
  intro start
  have valid : (⟨width before⟩ : String.Pos.Raw).isValid text = true :=
    String.Pos.Raw.isValid_eq_true_iff.mpr (isValid_iff.mpr ⟨_, _, whole, rfl⟩)
  have search : findPercentage 0 (filler ++ (tab.chars ++ digits ++ after)) =
      some (digits, 0 + width (filler ++ (tab.chars ++ digits)), after) :=
    findPercentage_eq_some.mpr ⟨filler, tab, rfl, rfl, free, numeral⟩
  have place : width before + (0 + width (filler ++ (tab.chars ++ digits))) = width start := by
    rw [Nat.zero_add, ← width_append]
  have same : before ++ (filler ++ (tab.chars ++ digits ++ after)) = start ++ after := by
    simp only [start, List.append_assoc]
  rw [entrySliced, if_pos valid, whole, sliceFrom_width, pure_bind, search]
  simp only [place, same]

/-- The cursor of the subject, moved on to the second comma. -/
theorem cursor_comma (start lead body rest : List Char) :
    start ++ (lead ++ ',' :: (body ++ rest)) = start ++ (lead ++ ',' :: body) ++ rest ∧
      width start + width (lead ++ ',' :: body) = width (start ++ (lead ++ ',' :: body)) := by
  refine ⟨by simp, (width_append _ _).symm⟩

theorem Lacks.stopsSliced {start : List Char} (lacks : Lacks (width start) after e) :
    subjectAfter (start ++ after) (width start) = throw e ∨
      ∃ subject toComma, subjectAfter (start ++ after) (width start) = pure (subject, toComma) ∧
        teacherAfter (start ++ after) (width start + toComma) = throw e := by
  cases lacks with
  | comma absent => exact .inl (subjectAfter_noComma absent)
  | secondComma first absent =>
      rw [Nat.add_assoc, Nat.add_assoc, ← Nat.add_assoc (width _) 1]
      exact .inl (subjectAfter_oneComma first absent)
  | @subject lead body first second blank rest =>
      rw [Nat.add_assoc, Nat.add_assoc, ← Nat.add_assoc (width lead) 1, subjectAfter_between first second,
        if_pos blank]
      exact .inl rfl
  | @tag lead body rest first second shown absent =>
      obtain ⟨whole, place⟩ := cursor_comma start lead body (',' :: rest)
      refine .inr ⟨_, _, (subjectAfter_between first second rest).trans (if_neg shown), ?_⟩
      rw [whole, place]
      exact teacherAfter_noTag (List.not_mem_cons_of_ne_of_not_mem (by decide) absent)

theorem entrySliced_row {filler rest : List Char} {row : Row}
    (whole : text.toList = before ++ (filler ++ (row.chars ++ '<' :: rest))) (free : TokenFree filler) :
    (entrySliced text (width before)).run = some (.ok (row.entry, width before + width (filler ++ row.chars))) := by
  rw [row.chars_append] at whole
  have token := entrySliced_token whole free (row.numeral_inner ('<' :: rest))
  generalize hstart : before ++ (filler ++ (row.tab.chars ++ row.digits)) = start at token
  obtain ⟨split, place⟩ := cursor_comma start row.lead row.body (',' :: (row.tail ++ '<' :: rest))
  have past : width start + width (row.lead ++ ',' :: row.body) + width (',' :: row.tail) =
      width before + width (filler ++ row.chars) := by
    rw [← hstart, ← width_append, ← width_append, ← width_append, Row.chars, Row.inner]
    simp only [List.append_assoc, List.cons_append]
  rw [token, row.percentage_of, row.inner_append, subjectAfter_between row.lead_comma row.body_comma,
    if_neg row.body_shown]
  have teacher : teacherAfter (start ++ (row.lead ++ ',' :: (row.body ++ ',' :: (row.tail ++ '<' :: rest))))
      (width start + width (row.lead ++ ',' :: row.body)) =
        pure (String.ofList (trimChars (lastPiece row.tail)), width (',' :: row.tail)) := by
    rw [split, place]
    exact teacherAfter_tag row.tail_tag rest
  simp only [pure_bind, teacher]
  rw [past]
  rfl

theorem entrySliced_stuck (whole : text.toList = before ++ cs) (stuck : Stuck (width before) cs e) :
    (entrySliced text (width before)).run = some (.error e) := by
  obtain ⟨free, tab, numeral, malformed⟩ := stuck
  rw [entrySliced_token whole free numeral]
  rw [← width_append] at malformed
  cases malformed with
  | percentage bad =>
      rw [bad]
      rfl
  | boundary good lacks =>
      rw [good]
      rcases lacks.stopsSliced with stops | ⟨subject, toComma, named, stops⟩
      · rw [stops]
        rfl
      · rw [named]
        simp only [pure_bind]
        rw [stops]
        rfl

/-- **No slice is refused.** A reader by cursors and slices reads what the reader by characters does. -/
theorem entrySliced_eq (text : String) (offset : Nat) : (entrySliced text offset).run = some (entryAt text offset) := by
  by_cases valid : (⟨offset⟩ : String.Pos.Raw).IsValid text
  · obtain ⟨before, cs, whole, rfl⟩ := isValid_iff.mp valid
    rw [entryAt_inside whole]
    rcases free_or_row_or_stuck (width before) cs with free | ⟨filler, free, row, rest, rfl⟩ | ⟨e, stuck⟩
    · rw [entryFrom_free free, entrySliced, if_pos (String.Pos.Raw.isValid_eq_true_iff.mpr valid), whole,
        sliceFrom_width, pure_bind, (findPercentage_eq_none 0 cs).mpr free]
      rfl
    · rw [Row.entryFrom free row, entrySliced_row whole free]
      rfl
    · rw [entryFrom_stuck stuck, entrySliced_stuck whole stuck]
      rfl
  · rw [entryAt_outside valid, entrySliced, if_neg (mt String.Pos.Raw.isValid_eq_true_iff.mp valid)]
    rfl

/-! ### Going on -/

/-- The place to resume from is the tag behind the entry. -/
theorem entryAt_resume (read : entryAt text offset = .ok (entry, resume)) :
    offset < resume ∧ ∃ head rest : String, text = head ++ ("<" ++ rest) ∧ head.utf8ByteSize = resume := by
  by_cases valid : (⟨offset⟩ : String.Pos.Raw).IsValid text
  · obtain ⟨before, cs, whole, rfl⟩ := isValid_iff.mp valid
    rw [entryAt_inside whole] at read
    rcases free_or_row_or_stuck (width before) cs with free | ⟨filler, free, row, rest, rfl⟩ | ⟨e, stuck⟩
    · rw [entryFrom_free free] at read
      cases read
    · rw [Row.entryFrom free row] at read
      cases read
      obtain ⟨c, more, tab, -⟩ := row.tab.exists_cons
      have moves : 0 < width (filler ++ row.chars) := by
        have first := c.utf8Size_pos
        rw [Row.chars, tab]
        simp only [width_append, width, List.cons_append]
        omega
      refine ⟨by omega, String.ofList (before ++ (filler ++ row.chars)), String.ofList rest, ?_, ?_⟩
      · rw [← String.toList_inj, whole]
        simp
      · rw [utf8ByteSize_ofList, width_append]
    · rw [entryFrom_stuck stuck] at read
      cases read
  · rw [entryAt_outside valid] at read
    cases read

/-- A tag is a byte of its own. -/
theorem getUTF8Byte_tag (head rest : String) :
    ∃ inside, (head ++ ("<" ++ rest)).getUTF8Byte ⟨head.utf8ByteSize⟩ inside = '<'.toNat.toUInt8 := by
  have inside : (⟨head.utf8ByteSize⟩ : String.Pos.Raw) < (head ++ ("<" ++ rest)).rawEndPos := by
    have tag : "<".utf8ByteSize = 1 := rfl
    change head.utf8ByteSize < (head ++ ("<" ++ rest)).utf8ByteSize
    rw [String.utf8ByteSize_append, String.utf8ByteSize_append]
    omega
  refine ⟨inside, ?_⟩
  have behind : head.toByteArray.size ≤ head.utf8ByteSize := Nat.le_refl _
  have start : head.utf8ByteSize - head.toByteArray.size = 0 := Nat.sub_self _
  have first : head.utf8ByteSize - head.toByteArray.size < "<".toByteArray.size := by
    rw [start]
    exact Nat.one_pos
  unfold String.getUTF8Byte
  simp only [String.toByteArray_append]
  rw [ByteArray.getElem_append_right behind, ByteArray.getElem_append_left first]
  simp only [start]
  rfl

namespace Scanner

/-- The cursor after it was asked some times. -/
def asked : Nat → Scanner → Scanner
  | 0, s => s
  | n + 1, s => asked n s.next.2

/-- Whether a cursor gives no entry. -/
def Rests (s : Scanner) : Prop := s.next.1 = .ok none ∨ ∃ e, s.next.1 = .error e

variable {s : Scanner}

theorem next_cases (s : Scanner) : (s.Rests ∧ s.next.2 = s) ∨ ∃ entry resume,
    entryAt s.text s.offset = .ok (entry, resume) ∧ s.next = (.ok (some (entry, resume)), ⟨s.text, resume⟩) := by
  cases read : entryAt s.text s.offset with
  | ok found =>
      obtain ⟨entry, resume⟩ := found
      exact .inr ⟨entry, resume, rfl, by rw [next, read]⟩
  | error e =>
      left
      cases e with
      | notFound what => exact ⟨.inl (by rw [next, read]), by rw [next, read]⟩
      | layout offset detail => exact ⟨.inr ⟨_, by rw [next, read]⟩, by rw [next, read]⟩
      | badPercentage raw => exact ⟨.inr ⟨_, by rw [next, read]⟩, by rw [next, read]⟩

/-- A cursor that gave no entry stays where it is. -/
theorem Rests.asked (rests : s.Rests) (n : Nat) : s.asked n = s := by
  have stays : s.next.2 = s := by
    rcases s.next_cases with ⟨-, stays⟩ | ⟨entry, resume, -, moves⟩
    · exact stays
    · rw [Rests, moves] at rests
      rcases rests with done | ⟨e, error⟩
      · cases done
      · cases error
  induction n with
  | zero => rfl
  | succ n ih => rw [Scanner.asked, stays, ih]

/-- A cursor gives an entry at most once for each byte that is left, and then none. -/
theorem comes_to_rest (s : Scanner) : ∃ n ≤ s.text.utf8ByteSize - s.offset,
    (∀ k < n, ∃ found, (s.asked k).next.1 = .ok (some found)) ∧ (s.asked n).Rests := by
  rcases s.next_cases with ⟨rests, -⟩ | ⟨entry, resume, read, moves⟩
  · exact ⟨0, Nat.zero_le _, nofun, rests⟩
  · obtain ⟨further, head, rest, whole, place⟩ := entryAt_resume read
    have inside : resume < s.text.utf8ByteSize := by
      have tag : "<".utf8ByteSize = 1 := rfl
      rw [whole, String.utf8ByteSize_append, String.utf8ByteSize_append]
      omega
    obtain ⟨n, few, given, rests⟩ := comes_to_rest ⟨s.text, resume⟩
    refine ⟨n + 1, ?_, ?_, ?_⟩
    · simp only at few
      omega
    · intro k hk
      cases k with
      | zero => exact ⟨_, congrArg Prod.fst moves⟩
      | succ k =>
          rw [asked, moves]
          exact given k (Nat.lt_of_succ_lt_succ hk)
    · rw [asked, moves]
      exact rests
  termination_by s.text.utf8ByteSize - s.offset

end Scanner

/-- **Reading is safe and goes on.** For every text and every offset: a reader that works with absolute cursors and with
slices is refused no slice, and reads what the reader by characters reads. An offset past the end or inside a character
is an error that names it. An entry is told with an offset to resume from that is further on, where a tag starts. The
entries of a text are what a cursor gives that is asked again and again. Wherever a cursor starts, it gives no more
entries than there are bytes left. Once it has given none or an error it stays, and gives the same answer whenever it
is asked. -/
theorem reading_goes_on :
    (∀ text offset, (entrySliced text offset).run = some (entryAt text offset)) ∧
    (∀ (text : String) offset, text.utf8ByteSize < offset ∨ ¬(⟨offset⟩ : String.Pos.Raw).IsValid text →
      entryAt text offset = .error (.layout offset "offset outside render")) ∧
    (∀ text offset entry resume, entryAt text offset = .ok (entry, resume) →
      offset < resume ∧ resume < text.utf8ByteSize ∧ (⟨resume⟩ : String.Pos.Raw).IsValid text ∧
        ∃ inside, text.getUTF8Byte ⟨resume⟩ inside = '<'.toNat.toUInt8) ∧
    (∀ text, Scanner.Reads (Scanner.ofText text) (entries text)) ∧
    (∀ s : Scanner, ∃ n ≤ s.text.utf8ByteSize - s.offset,
      (∀ k < n, ∃ found, (s.asked k).next.1 = .ok (some found)) ∧ (s.asked n).Rests) ∧
    (∀ s : Scanner, s.Rests → ∀ n, s.asked n = s ∧ (s.asked n).next = s.next) := by
  refine ⟨entrySliced_eq, ?_, ?_, Scanner.reads_entries, Scanner.comes_to_rest, ?_⟩
  · rintro text offset (past | outside)
    · exact entryAt_outside fun valid => Nat.not_lt.mpr valid.le_rawEndPos past
    · exact entryAt_outside outside
  · intro text offset entry resume read
    obtain ⟨further, head, rest, rfl, rfl⟩ := entryAt_resume read
    obtain ⟨inside, tag⟩ := getUTF8Byte_tag head rest
    exact ⟨further, inside, String.Pos.Raw.isValid_iff_exists_append.mpr ⟨head, _, rfl, rfl⟩, inside, tag⟩
  · intro s rests n
    rw [rests.asked n]
    exact ⟨rfl, rfl⟩

/-- A character of two bytes stands in front of a row. -/
theorem reading_goes_on_behind_wide :
    entryAt "é\t87, Art, Ms Lee<" 1 = .error (.layout 1 "offset outside render") ∧
      (entrySliced "é\t87, Art, Ms Lee<" 2).run = some (.ok (⟨"Art", "Ms Lee", ⟨87, by decide⟩⟩, 18)) ∧
      (∃ inside, "é\t87, Art, Ms Lee<".getUTF8Byte ⟨18⟩ inside = '<'.toNat.toUInt8) ∧
      Scanner.Rests ⟨"é\t87, Art, Ms Lee<", 18⟩ ∧
      Scanner.asked 3 ⟨"é\t87, Art, Ms Lee<", 18⟩ = ⟨"é\t87, Art, Ms Lee<", 18⟩ := by
  obtain ⟨sliced, outside, further, -, -, stays⟩ := reading_goes_on
  have read : entryAt "é\t87, Art, Ms Lee<" 2 = .ok (⟨"Art", "Ms Lee", ⟨87, by decide⟩⟩, 18) := rfl
  have cut : ¬(⟨1⟩ : String.Pos.Raw).IsValid "é\t87, Art, Ms Lee<" := by decide
  have rests : Scanner.Rests ⟨"é\t87, Art, Ms Lee<", 18⟩ := .inl rfl
  refine ⟨outside _ _ (.inr cut), ?_, (further _ _ _ _ read).2.2.2, rests, (stays _ rests 3).1⟩
  rw [sliced, read]

end Gradebook.Marksheet
