import Gradebook.Marksheet.Scanner
import Gradebook.Proofs.Marksheet.Layout

/-! Reading a marksheet on from a place is reading what stands behind it, with every place as many bytes further on. A
marksheet that is read and ends in the end of a tag is read alone as it is in front of another, since no token
reaches over that end. So fragments of a marksheet can be read one by one. -/

namespace Gradebook.Marksheet

/-- An error at a place that is `n` bytes further on. -/
def Error.shift (n : Nat) : Error → Error
  | .layout offset detail => .layout (offset + n) detail
  | e => e

/-- A reading at a place that is `n` bytes further on. -/
def shifted {α : Type} (n : Nat) : Except Error (α × Nat) → Except Error (α × Nat)
  | .ok (x, resume) => .ok (x, resume + n)
  | .error e => .error (e.shift n)

/-- Nothing, or text that ends with the end of a tag. -/
def Closed (text : String) : Prop := text = "" ∨ ∃ before, text = before ++ ">"

/-- What is read when a cursor is asked again and again, up to the end or the first error. -/
inductive Scanner.Reads : Scanner → Except Error (List Entry) → Prop where
  | done {s s' : Scanner} (next : s.next = (.ok none, s')) : Reads s (.ok [])
  | stop {s s' : Scanner} {e : Error} (next : s.next = (.error e, s')) : Reads s (.error e)
  | entry {s s' : Scanner} {entry : Entry} {resume : Nat} {others : Except Error (List Entry)}
      (next : s.next = (.ok (some (entry, resume)), s')) (rest : Reads s' others) : Reads s (others.map (entry :: ·))

variable {cs after : List Char} {offset : Nat} {es : List Entry} {e : Error}

/-! ### Bytes -/

theorem utf8ByteSize_ofList (cs : List Char) : (String.ofList cs).utf8ByteSize = width cs := by
  induction cs with
  | nil => rfl
  | cons c rest ih => rw [String.ofList_cons, String.utf8ByteSize_append, String.utf8ByteSize_singleton, ih, width]

theorem utf8ByteSize_eq (s : String) : s.utf8ByteSize = width s.toList := by
  rw [← utf8ByteSize_ofList, String.ofList_toList]

theorem dropBytes_width (xs ys : List Char) : dropBytes (width xs) (xs ++ ys) = some ys := by
  induction xs with
  | nil => rw [width, List.nil_append, dropBytes]
  | cons x rest ih =>
      obtain ⟨n, hn⟩ := Nat.exists_eq_succ_of_ne_zero (Nat.ne_of_gt (Nat.add_pos_left x.utf8Size_pos (width rest)))
      rw [width, hn, List.cons_append, dropBytes]
      have fits : x.utf8Size ≤ n + 1 := by omega
      have left : n + 1 - x.utf8Size = width rest := by omega
      rw [if_pos fits, left, ih]

/-! ### Reading further on -/

theorem Lacks.shift (lacks : Lacks offset after e) (n : Nat) : Lacks (offset + n) after (e.shift n) := by
  cases lacks with
  | comma absent => exact .comma absent
  | @secondComma lead after first absent =>
      have place : offset + width lead + 1 + (dropSpace after).1 + n =
          offset + n + width lead + 1 + (dropSpace after).1 := by omega
      rw [Error.shift, place]
      exact .secondComma first absent
  | @subject lead body first second blank after =>
      have place : offset + width lead + 1 + (dropSpace body).1 + n =
          offset + n + width lead + 1 + (dropSpace body).1 := by omega
      rw [Error.shift, place]
      exact .subject first second blank after
  | tag first second shown absent =>
      rw [Error.shift, Nat.add_right_comm]
      exact .tag first second shown absent

theorem Stuck.shift (stuck : Stuck offset cs e) (n : Nat) : Stuck (offset + n) cs (e.shift n) := by
  obtain ⟨free, tab, numeral, malformed⟩ := stuck
  refine .token free tab numeral ?_
  cases malformed with
  | percentage bad =>
      obtain rfl := percentageOf_error bad
      exact .percentage bad
  | boundary good lacks =>
      rw [Nat.add_right_comm]
      exact .boundary good (lacks.shift n)

theorem entryFrom_add (offset n : Nat) (cs : List Char) :
    (entryFrom (offset + n) cs).map (fun (entry, resume, _) => (entry, resume)) =
      shifted n ((entryFrom offset cs).map fun (entry, resume, _) => (entry, resume)) := by
  rcases free_or_row_or_stuck offset cs with free | ⟨filler, free, row, rest, rfl⟩ | ⟨e, stuck⟩
  · rw [entryFrom_free free, entryFrom_free free]
    rfl
  · rw [Row.entryFrom free row, Row.entryFrom free row, Nat.add_right_comm]
    rfl
  · rw [entryFrom_stuck stuck, entryFrom_stuck (stuck.shift n)]
    rfl

theorem entriesFrom_add (offset n : Nat) (cs : List Char) :
    entriesFrom (offset + n) cs = (entriesFrom offset cs).mapError (·.shift n) := by
  cases h : entriesFrom offset cs with
  | ok es =>
      rw [entriesFrom_eq_ok.mpr (entriesFrom_eq_ok.mp h)]
      rfl
  | error e =>
      obtain ⟨rows, last, hcs, stuck⟩ := entriesFrom_eq_error.mp h
      have further := stuck.shift n
      rw [Nat.add_right_comm] at further
      rw [entriesFrom_eq_error.mpr ⟨rows, last, hcs, further⟩]
      rfl

theorem entryAt_inside {text : String} {before : List Char} (whole : text.toList = before ++ cs) :
    entryAt text (width before) = (entryFrom (width before) cs).map fun (entry, resume, _) => (entry, resume) := by
  rw [entryAt, whole, dropBytes_width]

theorem entryAt_append (head rest : String) :
    entryAt (head ++ rest) head.utf8ByteSize = shifted head.utf8ByteSize (entryAt rest 0) := by
  rw [entryAt, entryAt, String.toList_append, utf8ByteSize_eq, dropBytes_width, dropBytes]
  simp only
  rw [← entryFrom_add, Nat.zero_add]

theorem Scanner.reads_from {text : String} (before cs : List Char) (h : text.toList = before ++ cs) :
    Reads ⟨text, width before⟩ (entriesFrom (width before) cs) := by
  have here := entryAt_inside h
  rcases free_or_row_or_stuck (width before) cs with free | ⟨filler, free, row, rest, hcs⟩ | ⟨e, stuck⟩
  · have asked : next ⟨text, width before⟩ = (.ok none, ⟨text, width before⟩) := by
      rw [next, here, entryFrom_free free]
      rfl
    rw [entriesFrom_free free]
    exact .done asked
  · have asked : next ⟨text, width before⟩ = (.ok (some (row.entry, width (before ++ (filler ++ row.chars)))),
        ⟨text, width (before ++ (filler ++ row.chars))⟩) := by
      rw [next, here, hcs, Row.entryFrom free row, width_append before]
      rfl
    have h' : text.toList = before ++ (filler ++ row.chars) ++ '<' :: rest := by
      simp only [h, hcs, List.append_assoc]
    -- the cursor rests on the tag of the row, and goes on from there
    rw [hcs, entriesFrom_eq, Row.entryFrom free row, ← width_append]
    exact .entry asked (reads_from (before ++ (filler ++ row.chars)) ('<' :: rest) h')
  · have asked : next ⟨text, width before⟩ = (.error e, ⟨text, width before⟩) := by
      rw [next, here, entryFrom_stuck stuck]
      cases e with
      | notFound what => exact absurd rfl (stuck.ne_notFound what)
      | layout offset detail => rfl
      | badPercentage raw => rfl
    rw [entriesFrom_stuck stuck]
    exact .stop asked
  termination_by cs.length
  decreasing_by
    rw [hcs]
    exact entryFrom_length (Row.entryFrom free row rest 0)

/-- A cursor that walks a marksheet reads its entries. -/
theorem Scanner.reads_entries (text : String) : Reads (ofText text) (entries text) :=
  reads_from [] text.toList rfl

/-! ### Reading on behind the end of a tag -/

theorem Closed.getLast {head : String} (closed : Closed head) : head.toList = [] ∨ ∃ cs, head.toList = cs ++ ['>'] := by
  rcases closed with rfl | ⟨before, rfl⟩
  · exact .inl rfl
  · exact .inr ⟨before.toList, String.toList_append⟩

theorem layout_closed {rows : List (Filler × Row)} {last : List Char}
    (closed : layout rows last = [] ∨ ∃ cs, layout rows last = cs ++ ['>']) :
    last = [] ∨ ∃ cs, last = cs ++ ['>'] := by
  rcases last.eq_nil_or_concat' with rfl | ⟨before, c, rfl⟩
  · exact .inl rfl
  · rw [← layout_append] at closed
    rcases closed with empty | ⟨cs, ends⟩
    · exact absurd (List.append_eq_nil_iff.mp empty).2 (List.cons_ne_nil c [])
    · obtain ⟨-, same⟩ := List.append_inj' ends rfl
      exact .inr ⟨before, by rw [same]⟩

theorem entriesFrom_closed {last : List Char} (free : TokenFree last) (closed : last = [] ∨ ∃ cs, last = cs ++ ['>'])
    (offset : Nat) (more : List Char) : entriesFrom offset (last ++ more) = entriesFrom (offset + width last) more := by
  rcases closed with rfl | ⟨cs, rfl⟩
  · rfl
  · have inside : TokenFree cs := free.of_infix (List.prefix_append cs ['>']).isInfix
    rw [List.append_assoc]
    exact entriesFrom_congr (findPercentage_of_free_barrier inside barrier_close offset more)

theorem entries_append {head : String} (closed : Closed head) (read : entries head = .ok es) (rest : String) :
    entries (head ++ rest) = ((entries rest).mapError (·.shift head.utf8ByteSize)).map (es ++ ·) := by
  obtain ⟨rows, last, laid, free, rfl⟩ := entries_eq_ok.mp read
  -- the rows of the head stay rows, and what it has behind them is free of tokens up to a barrier
  have place : width (layout rows []) + width last = head.utf8ByteSize := by
    rw [utf8ByteSize_eq, laid, ← width_append, layout_append, List.nil_append]
  have ends : last = [] ∨ ∃ cs, last = cs ++ ['>'] := layout_closed (laid ▸ closed.getLast)
  rw [entries, entries, String.toList_append, laid, layout_append, entriesFrom_layout, entriesFrom_closed free ends,
    Nat.zero_add, place, ← entriesFrom_add, Nat.zero_add]

theorem entries_join {fragments : List String} {readings : List (List Entry)}
    (closed : ∀ text ∈ fragments, Closed text) (read : fragments.mapM entries = .ok readings) :
    entries (String.join fragments) = .ok readings.flatten := by
  have each := mapM_eq_ok.mp read
  clear read
  induction each with
  | nil => exact entriesFrom_free tokenFree_nil 0
  | cons head _ ih =>
      rw [String.join_cons, entries_append (closed _ List.mem_cons_self) head,
        ih fun text h => closed text (List.mem_cons_of_mem _ h)]
      rfl

/-- Reading is compositional: from a place on, behind the end of a tag, fragment by fragment, and entry by entry. -/
theorem entries_compositional :
    (∀ head rest : String,
      entryAt (head ++ rest) head.utf8ByteSize = shifted head.utf8ByteSize (entryAt rest 0)) ∧
    (∀ (head rest : String) (es : List Entry), Closed head → entries head = .ok es →
      entries (head ++ rest) = ((entries rest).mapError (·.shift head.utf8ByteSize)).map (es ++ ·)) ∧
    (∀ (fragments : List String) (readings : List (List Entry)), (∀ text ∈ fragments, Closed text) →
      fragments.mapM entries = .ok readings → entries (String.join fragments) = .ok readings.flatten) ∧
    (∀ text : String, Scanner.Reads (Scanner.ofText text) (entries text)) := by
  refine ⟨entryAt_append, ?_, ?_, Scanner.reads_entries⟩
  · intro head rest es closed read
    exact entries_append closed read rest
  · intro fragments readings closed read
    exact entries_join closed read

/-- Two fragments, and a third that is cut off in its row. -/
theorem entries_compositional_fragments :
    entryAt "é\t87, Art, Ms Lee<" 2 = .ok (⟨"Art", "Ms Lee", ⟨87, by decide⟩⟩, 18) ∧
    entries (String.join ["\t87, Art, Ms Lee</td>", "\\t64, Physics, Dr Jones</td>"]) =
      .ok [⟨"Art", "Ms Lee", ⟨87, by decide⟩⟩, ⟨"Physics", "Dr Jones", ⟨64, by decide⟩⟩] ∧
    entries ("\t87, Art, Ms Lee</td>" ++ "\t50 Art") = .error (.layout 24 "no comma after percentage") := by
  have art : entries "\t87, Art, Ms Lee</td>" = .ok [⟨"Art", "Ms Lee", ⟨87, by decide⟩⟩] :=
    entriesFrom_cons rfl (entriesFrom_free (by decide) _)
  have physics : entries "\\t64, Physics, Dr Jones</td>" = .ok [⟨"Physics", "Dr Jones", ⟨64, by decide⟩⟩] :=
    entriesFrom_cons rfl (entriesFrom_free (by decide) _)
  have cut : entries "\t50 Art" = .error (.layout 3 "no comma after percentage") := by
    rw [entries, entriesFrom_eq]
    rfl
  have closedArt : Closed "\t87, Art, Ms Lee</td>" := .inr ⟨"\t87, Art, Ms Lee</td", rfl⟩
  have closedPhysics : Closed "\\t64, Physics, Dr Jones</td>" := .inr ⟨"\\t64, Physics, Dr Jones</td", rfl⟩
  obtain ⟨resume, behind, fragments, -⟩ := entries_compositional
  refine ⟨?_, ?_, ?_⟩
  · exact resume "é" "\t87, Art, Ms Lee<"
  · refine fragments _ [_, _] ?_ (mapM_eq_ok.mpr (.cons art (.cons physics .nil)))
    intro text h
    rcases List.mem_pair.mp h with rfl | rfl
    · exact closedArt
    · exact closedPhysics
  · rw [behind _ "\t50 Art" _ closedArt art, cut]
    rfl

end Gradebook.Marksheet
