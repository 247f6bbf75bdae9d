import Gradebook.Proofs.Except
import Gradebook.Proofs.Marksheet.Token
import Gradebook.Proofs.Text

/-! What a percentage token is followed by. Either the text from there on has the two commas and the tag of a row, and
then it is read as one, or it lacks one of them anywhere up to its end, and then the token is malformed. A boundary
is looked for in all that follows, not in the row alone. -/

namespace Gradebook.Marksheet

open Text (isDigitOfAnyScript trimChars)

/-- The characters after the last comma, all of them if there is none. -/
def lastPiece (cs : List Char) : List Char := (cs.reverse.takeWhile (· ≠ ',')).reverse

/-- A row, up to the tag that closes it: a token, the text before the first comma, the text between the commas, and
the text from the second comma to the tag. -/
structure Row where
  tab : Tab
  digits : List Char
  lead : List Char
  body : List Char
  tail : List Char
  percentage : Percentage
  numeral : Numeral digits lead
  percentage_of : percentageOf digits = .ok percentage
  lead_comma : ',' ∉ lead
  body_comma : ',' ∉ body
  body_shown : trimChars body ≠ []
  tail_tag : '<' ∉ tail

namespace Row

/-- What follows the token of a row. -/
def inner (row : Row) : List Char := row.lead ++ ',' :: (row.body ++ ',' :: row.tail)

def chars (row : Row) : List Char := row.tab.chars ++ row.digits ++ row.inner

def entry (row : Row) : Entry :=
  ⟨String.ofList (trimChars row.body), String.ofList (trimChars (lastPiece row.tail)), row.percentage⟩

end Row

/-- What the text that follows a token at `offset` lacks to be the rest of a row. It never lacks the comma before the
teacher, which is the second one at the latest. -/
inductive Lacks (offset : Nat) : List Char → Error → Prop where
  | comma {after : List Char} (absent : ',' ∉ after) :
      Lacks offset after (.layout offset "no comma after percentage")
  | secondComma {lead after : List Char} (first : ',' ∉ lead) (absent : ',' ∉ after) :
      Lacks offset (lead ++ ',' :: after)
        (.layout (offset + width lead + 1 + (dropSpace after).1) "no comma after subject")
  | subject {lead body : List Char} (first : ',' ∉ lead) (second : ',' ∉ body) (blank : trimChars body = [])
      (after : List Char) :
      Lacks offset (lead ++ ',' :: (body ++ ',' :: after))
        (.layout (offset + width lead + 1 + (dropSpace body).1) "empty subject")
  | tag {lead body after : List Char} (first : ',' ∉ lead) (second : ',' ∉ body) (shown : trimChars body ≠ [])
      (absent : '<' ∉ after) :
      Lacks offset (lead ++ ',' :: (body ++ ',' :: after))
        (.layout (offset + width (lead ++ ',' :: body)) "no tag after subject")

/-- Why the digits of a token, and all that follows them at `offset`, are no row. -/
inductive Malformed (offset : Nat) (digits after : List Char) (e : Error) : Prop where
  | percentage (bad : percentageOf digits = .error e)
  | boundary {p : Percentage} (good : percentageOf digits = .ok p) (lacks : Lacks offset after e)

/-- The first token of the text at `offset` is malformed. -/
inductive Stuck (offset : Nat) : List Char → Error → Prop where
  | token {filler digits after : List Char} {e : Error} (free : TokenFree filler) (tab : Tab)
      (numeral : Numeral digits after)
      (malformed : Malformed (offset + width (filler ++ (tab.chars ++ digits))) digits after e) :
      Stuck offset (filler ++ (tab.chars ++ digits ++ after)) e

variable {cs lead body digits after filler : List Char} {offset : Nat} {e : Error}

/-! ### The subject -/

theorem dropSpace_body (second : ',' ∉ body) (after : List Char) : ∃ shown, ',' ∉ shown ∧
    trimChars shown = trimChars body ∧ width body = (dropSpace body).1 + width shown ∧
    dropSpace (body ++ ',' :: after) = ((dropSpace body).1, shown ++ ',' :: after) := by
  cases body with
  | nil => exact ⟨[], second, rfl, rfl, rfl⟩
  | cons c rest =>
      -- the space that is dropped is one that trimming takes away as well
      by_cases hc : c = ' '
      · subst hc
        exact ⟨rest, List.not_mem_of_not_mem_cons second, (Text.trimChars_blank (by decide) rest).symm, rfl, rfl⟩
      · have keeps (more : List Char) : dropSpace (c :: more) = (0, c :: more) := by simp [dropSpace, hc]
        refine ⟨c :: rest, second, rfl, ?_, ?_⟩
        · rw [keeps, Nat.zero_add]
        · rw [List.cons_append, keeps, keeps]

theorem readSubject_noComma (absent : ',' ∉ cs) :
    readSubject offset cs = .error (.layout offset "no comma after percentage") := by
  rw [readSubject, Text.cutAt_absent absent]

theorem dropSpace_absent (absent : ',' ∉ after) : ',' ∉ (dropSpace after).2 := by
  unfold dropSpace
  split
  · exact List.not_mem_of_not_mem_cons absent
  · exact absent

theorem readSubject_oneComma (first : ',' ∉ lead) (absent : ',' ∉ after) :
    readSubject offset (lead ++ ',' :: after) =
      .error (.layout (offset + width lead + 1 + (dropSpace after).1) "no comma after subject") := by
  rw [readSubject, Text.cutAt_append first]
  simp only [Text.cutAt_absent (dropSpace_absent absent)]

theorem readSubject_between (first : ',' ∉ lead) (second : ',' ∉ body) (after : List Char) :
    readSubject offset (lead ++ ',' :: (body ++ ',' :: after)) =
      if trimChars body = [] then
        .error (.layout (offset + width lead + 1 + (dropSpace body).1) "empty subject")
      else
        .ok (String.ofList (trimChars body), offset + width (lead ++ ',' :: body), ',' :: after) := by
  obtain ⟨shown, hshown, htrim, hwidth, hdrop⟩ := dropSpace_body second after
  have place : offset + width (lead ++ ',' :: body) =
      offset + width lead + 1 + (dropSpace body).1 + width shown := by
    have comma : Char.utf8Size ',' = 1 := rfl
    rw [width_append, width, comma, hwidth]
    omega
  rw [readSubject, Text.cutAt_append first]
  simp only [hdrop, Text.cutAt_append hshown, htrim, List.isEmpty_iff, place]

/-! ### The teacher -/

theorem all_shown {piece : List Char} (absent : ',' ∉ piece) : ∀ c ∈ piece.reverse, decide (c ≠ ',') = true := by
  intro c hc
  simpa using ne_of_mem_of_not_mem (List.mem_reverse.mp hc) absent

theorem lastPiece_absent {cs : List Char} (absent : ',' ∉ cs) : lastPiece cs = cs := by
  rw [lastPiece, List.takeWhile_eq_self_iff.mpr (all_shown absent), List.reverse_reverse]

theorem lastPiece_append (front : List Char) {piece : List Char} (absent : ',' ∉ piece) :
    lastPiece (front ++ ',' :: piece) = piece := by
  have whole : (front ++ ',' :: piece).reverse = piece.reverse ++ ',' :: front.reverse := by simp
  rw [lastPiece, whole, List.takeWhile_append_of_pos (all_shown absent), List.takeWhile_cons_of_neg (by simp),
    List.append_nil, List.reverse_reverse]

theorem afterLastComma?_cons (cs : List Char) : afterLastComma? (',' :: cs) = some (lastPiece cs) := by
  have stops : (cs.reverse ++ [',']).takeWhile (· ≠ ',') = cs.reverse.takeWhile (· ≠ ',') := by
    induction cs.reverse with
    | nil => rfl
    | cons c rest ih => by_cases hc : c = ',' <;> simp_all
  rw [afterLastComma?, if_pos List.mem_cons_self, List.reverse_cons, stops]
  rfl

theorem readTeacher_noTag (absent : '<' ∉ cs) :
    readTeacher offset cs = .error (.layout offset "no tag after subject") := by
  rw [readTeacher, Text.cutAt_absent absent]

theorem readTeacher_tag (absent : '<' ∉ cs) (after : List Char) :
    readTeacher offset (',' :: (cs ++ '<' :: after)) =
      .ok (String.ofList (trimChars (lastPiece cs)), offset + width (',' :: cs), '<' :: after) := by
  have comma : '<' ∉ ',' :: cs := List.not_mem_cons_of_ne_of_not_mem (by decide) absent
  rw [readTeacher, ← List.cons_append, Text.cutAt_append comma]
  simp only [afterLastComma?_cons]

/-! ### Entries -/

theorem entryFrom_free (free : TokenFree cs) (offset : Nat) :
    entryFrom offset cs = .error (.notFound "percentage") := by
  rw [entryFrom, (findPercentage_eq_none _ _).mpr free]

theorem Lacks.stops (lacks : Lacks offset after e) : readSubject offset after = .error e ∨
    ∃ subject atComma rest, readSubject offset after = .ok (subject, atComma, rest) ∧
      readTeacher atComma rest = .error e := by
  cases lacks with
  | comma absent => exact .inl (readSubject_noComma absent)
  | secondComma first absent => exact .inl (readSubject_oneComma first absent)
  | subject first second blank rest =>
      rw [readSubject_between first second, if_pos blank]
      exact .inl rfl
  | tag first second shown absent =>
      rw [readSubject_between first second, if_neg shown]
      exact .inr ⟨_, _, _, rfl, readTeacher_noTag (List.not_mem_cons_of_ne_of_not_mem (by decide) absent)⟩

theorem entryFrom_stuck (stuck : Stuck offset cs e) : entryFrom offset cs = .error e := by
  obtain ⟨free, tab, numeral, malformed⟩ := stuck
  rw [entryFrom, findPercentage_eq_some.mpr ⟨_, tab, rfl, rfl, free, numeral⟩]
  cases malformed with
  | percentage bad => simp only [bad, bind, Except.bind]
  | boundary good lacks =>
      rcases lacks.stops with stops | ⟨subject, atComma, rest, hsubject, stops⟩
      · simp only [good, stops, bind, Except.bind]
      · simp only [good, hsubject, stops, bind, Except.bind]

theorem Numeral.append (numeral : Numeral digits lead) {c : Char} (hc : isDigitOfAnyScript c = false)
    (more : List Char) : Numeral digits (lead ++ c :: more) := by
  refine ⟨numeral.nonempty, numeral.digits, ?_⟩
  cases lead with
  | nil => simpa using hc
  | cons b rest => exact numeral.ends

theorem Numeral.of_append {c : Char} {more : List Char} (numeral : Numeral digits (lead ++ c :: more)) :
    Numeral digits lead := by
  refine ⟨numeral.nonempty, numeral.digits, ?_⟩
  cases lead with
  | nil => nofun
  | cons b rest => exact numeral.ends

namespace Row

theorem chars_append (row : Row) (rest : List Char) :
    row.chars ++ rest = row.tab.chars ++ row.digits ++ (row.inner ++ rest) := by
  simp only [chars, List.append_assoc]

theorem inner_append (row : Row) (rest : List Char) :
    row.inner ++ rest = row.lead ++ ',' :: (row.body ++ ',' :: (row.tail ++ rest)) := by
  simp only [inner, List.append_assoc, List.cons_append]

theorem numeral_inner (row : Row) (rest : List Char) : Numeral row.digits (row.inner ++ rest) := by
  rw [row.inner_append]
  exact row.numeral.append (by decide) _

theorem findPercentage (free : TokenFree filler) (row : Row) (rest : List Char) (offset : Nat) :
    findPercentage offset (filler ++ (row.chars ++ rest)) =
      some (row.digits, offset + width (filler ++ (row.tab.chars ++ row.digits)), row.inner ++ rest) := by
  rw [row.chars_append]
  exact findPercentage_eq_some.mpr ⟨filler, row.tab, rfl, rfl, free, row.numeral_inner rest⟩

theorem entryFrom (free : TokenFree filler) (row : Row) (rest : List Char) (offset : Nat) :
    entryFrom offset (filler ++ (row.chars ++ '<' :: rest)) =
      .ok (row.entry, offset + width (filler ++ row.chars), '<' :: rest) := by
  have place : offset + width (filler ++ row.chars) = offset + width (filler ++ (row.tab.chars ++ row.digits)) +
      width (row.lead ++ ',' :: row.body) + width (',' :: row.tail) := by
    simp only [chars, inner, width_append, width]
    omega
  rw [Marksheet.entryFrom, row.findPercentage free, row.inner_append]
  simp only [row.percentage_of, readSubject_between row.lead_comma row.body_comma, if_neg row.body_shown,
    readTeacher_tag row.tail_tag, bind, Except.bind, place]
  rfl

end Row

/-! ### What a text holds -/

theorem lacks_or_row (offset : Nat) (after : List Char) : (∃ e, Lacks offset after e) ∨
    ∃ lead body tail rest, after = lead ++ ',' :: (body ++ ',' :: (tail ++ '<' :: rest)) ∧
      ',' ∉ lead ∧ ',' ∉ body ∧ trimChars body ≠ [] ∧ '<' ∉ tail := by
  by_cases hfirst : ',' ∈ after
  · obtain ⟨lead, after, rfl, first⟩ := List.eq_append_cons_of_mem hfirst
    by_cases hsecond : ',' ∈ after
    · obtain ⟨body, after, rfl, second⟩ := List.eq_append_cons_of_mem hsecond
      by_cases blank : trimChars body = []
      · exact .inl ⟨_, .subject first second blank after⟩
      · by_cases htag : '<' ∈ after
        · obtain ⟨tail, rest, rfl, absent⟩ := List.eq_append_cons_of_mem htag
          exact .inr ⟨lead, body, tail, rest, rfl, first, second, blank, absent⟩
        · exact .inl ⟨_, .tag first second blank htag⟩
    · exact .inl ⟨_, .secondComma first hsecond⟩
  · exact .inl ⟨_, .comma hfirst⟩

/-- A text is free of tokens, or its first token starts a row, or it is malformed. -/
theorem free_or_row_or_stuck (offset : Nat) (cs : List Char) : TokenFree cs ∨
    (∃ filler, TokenFree filler ∧ ∃ (row : Row) (rest : List Char), cs = filler ++ (row.chars ++ '<' :: rest)) ∨
    ∃ e, Stuck offset cs e := by
  cases search : findPercentage offset cs with
  | none => exact .inl ((findPercentage_eq_none _ _).mp search)
  | some found =>
      obtain ⟨digits, past, after⟩ := found
      obtain ⟨filler, tab, rfl, rfl, free, numeral⟩ := findPercentage_eq_some.mp search
      cases hp : percentageOf digits with
      | error e => exact .inr (.inr ⟨e, .token free tab numeral (.percentage hp)⟩)
      | ok percentage =>
          rcases lacks_or_row (offset + width (filler ++ (tab.chars ++ digits))) after with
            ⟨e, lacks⟩ | ⟨lead, body, tail, rest, rfl, first, second, shown, absent⟩
          · exact .inr (.inr ⟨e, .token free tab numeral (.boundary hp lacks)⟩)
          · let row : Row := ⟨tab, digits, lead, body, tail, percentage, numeral.of_append, hp, first, second, shown,
              absent⟩
            exact .inr (.inl ⟨filler, free, row, rest, by rw [row.chars_append, row.inner_append]⟩)

end Gradebook.Marksheet
