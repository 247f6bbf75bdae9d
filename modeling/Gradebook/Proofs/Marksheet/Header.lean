import Gradebook.Marksheet.Header
import Gradebook.Proofs.Marksheet.Grammar

/-! The head of a marksheet, told without a reader. The name stands in the first anchor that closes on its line, wherever
anchors before it are left open, and ends where it first closes. The year is the one that is named last: all digits that
follow the word and a blank there are read, and where they are no year nothing else is. A search that goes on behind the
digits of each year passes over none, so the last year it comes upon is the same. -/

namespace Gradebook.Marksheet

open Text (isBlank isDigitOfAnyScript readDigits readInt32 trimChars NumeralFlaw)

/-- The tag that opens an anchor. -/
def opening : List Char := "<a>".toList

/-- The tag that closes an anchor. -/
def closing : List Char := "</a>".toList

/-- A text that comes to the tag that closes an anchor before its line ends. -/
structure Closes (cs body after : List Char) : Prop where
  split : cs = body ++ (closing ++ after)
  oneLine : '\n' ∉ body

/-- An anchor that closes on the line on which it opens, with what stands before it, in it and after it. -/
def Anchor (cs before body after : List Char) : Prop :=
  ∃ more, cs = before ++ (opening ++ more) ∧ Closes more body after

/-- The anchor that opens first and, of those that open there, closes first. -/
structure FirstAnchor (cs before body after : List Char) : Prop where
  anchor : Anchor cs before body after
  opens : ∀ before' body' after', Anchor cs before' body' after' → before.length ≤ before'.length
  closes : ∀ body' after', Anchor cs before body' after' → body.length ≤ body'.length

/-- The word in front of a year. -/
def yearWord : List Char := "Year".toList

/-- Whether a year is named here: the word, one blank and a digit of any script. -/
def StartsYear (cs : List Char) : Prop :=
  ∃ blank d, isBlank blank = true ∧ isDigitOfAnyScript d = true ∧ yearWord ++ [blank, d] <+: cs

/-- The year that is named last: the word, a blank and all the digits behind it, with what stands before and after. -/
structure LastNamed (cs before : List Char) (blank : Char) (digits after : List Char) : Prop where
  split : cs = before ++ (yearWord ++ blank :: (digits ++ after))
  blank : isBlank blank = true
  numeral : Numeral digits after
  last : ∀ k, before.length < k → ¬StartsYear (cs.drop k)

/-- ASCII digits that spell a number of 32 bits with a sign. -/
def IsYear (digits : List Char) : Prop :=
  (∀ c ∈ digits, c.isDigit = true) ∧ Nat.ofDigitChars 10 digits 0 ≤ Int32.maxValue.toInt.toNat

instance (digits : List Char) : Decidable (IsYear digits) :=
  decidable_of_iff (digits.all Char.isDigit = true ∧ Nat.ofDigitChars 10 digits 0 ≤ Int32.maxValue.toInt.toNat)
    (and_congr_left fun _ => List.all_eq_true)

/-- What is wrong with digits that are no year: the ASCII digits at the start spell too large a number already, or else
others follow them. -/
def yearFlaw (digits : List Char) : NumeralFlaw :=
  if Int32.maxValue.toInt.toNat < Nat.ofDigitChars 10 (digits.takeWhile Char.isDigit) 0 then .tooLarge else .invalidDigit

/-- The fault of digits at a place that are no year. -/
def invalidYear (place : Nat) (digits : List Char) : Error :=
  .layout place ("invalid year " ++ Text.quoted (String.ofList digits) ++ ": " ++ (yearFlaw digits).message)

/-- The years that a search comes upon which goes on behind the digits of each: where the digits begin, and the digits. -/
def yearsInTurn (offset : Nat) : List Char → List (Nat × List Char)
  | [] => []
  | c :: rest =>
    match yearDigits? (c :: rest) with
    | none => yearsInTurn (offset + c.utf8Size) rest
    | some (before, digits) =>
      (offset + before, digits) ::
        yearsInTurn (offset + before + width digits) (rest.drop (4 + digits.length))
  termination_by cs => cs.length

variable {cs before body after digits xs : List Char} {blank c : Char} {offset : Nat} {text : String} {year : Int32}

/-! ### Anchors -/

theorem closes_cons : Closes (c :: cs) body after ↔
    (body = [] ∧ c :: cs = closing ++ after) ∨ ∃ rest, body = c :: rest ∧ c ≠ '\n' ∧ Closes cs rest after := by
  constructor
  · rintro ⟨split, oneLine⟩
    cases body with
    | nil => exact .inl ⟨rfl, split⟩
    | cons b rest =>
        rw [List.cons_append, List.cons_eq_cons] at split
        obtain ⟨rfl, split⟩ := split
        obtain ⟨hc, hrest⟩ := List.ne_and_not_mem_of_not_mem_cons oneLine
        exact .inr ⟨rest, rfl, hc.symm, split, hrest⟩
  · rintro (⟨rfl, split⟩ | ⟨rest, rfl, hc, split, hrest⟩)
    · exact ⟨split, List.not_mem_nil⟩
    · exact ⟨congrArg (c :: ·) split, List.not_mem_cons_of_ne_of_not_mem hc.symm hrest⟩

theorem not_closes_nil : ¬Closes [] body after := by
  rintro ⟨split, -⟩
  cases body <;> cases split

theorem anchorBody?_closing (after : List Char) : anchorBody? (closing ++ after) = some ([], after) := rfl

theorem anchorBody?_cons (stays : ¬closing <+: c :: cs) : anchorBody? (c :: cs) =
    if c = '\n' then none else (anchorBody? cs).map fun (body, after) => (c :: body, after) := by
  rw [anchorBody?]
  rintro after rfl rfl
  exact stays ⟨after, rfl⟩

/-- The body of an anchor is what stands before the tag that closes it first. -/
theorem anchorBody?_cases (cs : List Char) :
    (∃ body after, anchorBody? cs = some (body, after) ∧ Closes cs body after ∧
      ∀ body' after', Closes cs body' after' → body.length ≤ body'.length) ∨
    (anchorBody? cs = none ∧ ∀ body after, ¬Closes cs body after) := by
  induction cs with
  | nil => exact .inr ⟨rfl, fun _ _ => not_closes_nil⟩
  | cons c cs ih =>
      by_cases stays : closing <+: c :: cs
      · obtain ⟨after, split⟩ := stays
        rw [← split]
        exact .inl ⟨[], after, anchorBody?_closing after, ⟨rfl, List.not_mem_nil⟩, fun _ _ _ => Nat.zero_le _⟩
      · -- a tag that closes comes later, on the same line
        have later {body after : List Char} (closes : Closes (c :: cs) body after) :
            ∃ rest, body = c :: rest ∧ c ≠ '\n' ∧ Closes cs rest after :=
          (closes_cons.mp closes).resolve_left fun here => stays ⟨after, here.2.symm⟩
        rw [anchorBody?_cons stays]
        by_cases line : c = '\n'
        · rw [if_pos line]
          refine .inr ⟨rfl, fun body after closes => ?_⟩
          obtain ⟨-, -, other, -⟩ := later closes
          exact other line
        · rw [if_neg line]
          rcases ih with ⟨body, after, found, closes, first⟩ | ⟨found, none⟩
          · rw [found]
            refine .inl ⟨c :: body, after, rfl, closes_cons.mpr (.inr ⟨body, rfl, line, closes⟩), ?_⟩
            intro body' after' closes'
            obtain ⟨rest, rfl, -, closesRest⟩ := later closes'
            exact Nat.succ_le_succ (first rest after' closesRest)
          · rw [found]
            refine .inr ⟨rfl, fun body after closes => ?_⟩
            obtain ⟨rest, -, -, closesRest⟩ := later closes
            exact none rest after closesRest

theorem anchor?_opening (more : List Char) : anchor? (opening ++ more) = anchorBody? more := rfl

theorem anchor?_of_not_opening (closed : ¬opening <+: cs) : anchor? cs = none := by
  unfold anchor?
  split
  · next more => exact absurd ⟨more, rfl⟩ closed
  · rfl

theorem anchor_cons : Anchor (c :: cs) before body after ↔
    (before = [] ∧ Anchor (c :: cs) [] body after) ∨ ∃ rest, before = c :: rest ∧ Anchor cs rest body after := by
  constructor
  · rintro ⟨more, split, closes⟩
    cases before with
    | nil => exact .inl ⟨rfl, more, split, closes⟩
    | cons b rest =>
        rw [List.cons_append, List.cons_eq_cons] at split
        obtain ⟨rfl, split⟩ := split
        exact .inr ⟨rest, rfl, more, split, closes⟩
  · rintro (⟨rfl, anchor⟩ | ⟨rest, rfl, more, split, closes⟩)
    · exact anchor
    · exact ⟨more, congrArg (c :: ·) split, closes⟩

/-- What stands at the start is an anchor just where one can be read there, and it ends where it first closes. -/
theorem anchor?_cases (cs : List Char) :
    (∃ body after, anchor? cs = some (body, after) ∧ Anchor cs [] body after ∧
      ∀ body' after', Anchor cs [] body' after' → body.length ≤ body'.length) ∨
    (anchor? cs = none ∧ ∀ body after, ¬Anchor cs [] body after) := by
  by_cases opened : opening <+: cs
  · obtain ⟨more, rfl⟩ := opened
    have inside {body after : List Char} : Anchor (opening ++ more) [] body after ↔ Closes more body after := by
      constructor
      · rintro ⟨other, split, closes⟩
        exact List.append_cancel_left split ▸ closes
      · intro closes
        exact ⟨more, rfl, closes⟩
    rw [anchor?_opening]
    simp only [inside]
    exact anchorBody?_cases more
  · refine .inr ⟨anchor?_of_not_opening opened, ?_⟩
    rintro body after ⟨more, rfl, -⟩
    exact opened (List.prefix_append opening more)

theorem width_tags (before body : List Char) (offset : Nat) :
    offset + width (before ++ opening ++ body ++ closing) = offset + width before + 7 + width body := by
  have tags : width opening + width closing = 7 := by decide
  rw [width_append, width_append, width_append]
  omega

/-- A search finds the first anchor, if there is one. -/
theorem findAnchor_cases (offset : Nat) (cs : List Char) :
    (∃ before body after, FirstAnchor cs before body after ∧
      findAnchor offset cs = some (body, offset + width (before ++ opening ++ body ++ closing))) ∨
    ((∀ before body after, ¬Anchor cs before body after) ∧ findAnchor offset cs = none) := by
  induction cs generalizing offset with
  | nil =>
      refine .inr ⟨?_, rfl⟩
      rintro (_ | _) body after ⟨more, split, -⟩ <;> cases split
  | cons c cs ih =>
      rw [findAnchor]
      rcases anchor?_cases (c :: cs) with ⟨body, after, found, anchor, closes⟩ | ⟨found, none⟩
      · rw [found]
        refine .inl ⟨[], body, after, ⟨anchor, fun _ _ _ _ => Nat.zero_le _, closes⟩, ?_⟩
        rw [width_tags]
        rfl
      · -- no anchor starts here
        have later {before body after : List Char} (anchor : Anchor (c :: cs) before body after) :
            ∃ rest, before = c :: rest ∧ Anchor cs rest body after :=
          (anchor_cons.mp anchor).resolve_left fun here => none body after here.2
        rw [found]
        rcases ih (offset + c.utf8Size) with ⟨before, body, after, ⟨anchor, opens, closes⟩, search⟩ | ⟨absent, search⟩
        · refine .inl ⟨c :: before, body, after, ⟨anchor_cons.mpr (.inr ⟨before, rfl, anchor⟩), ?_, ?_⟩, ?_⟩
          · intro before' body' after' anchor'
            obtain ⟨rest, rfl, anchorRest⟩ := later anchor'
            exact Nat.succ_le_succ (opens rest body' after' anchorRest)
          · intro body' after' anchor'
            obtain ⟨rest, same, anchorRest⟩ := later anchor'
            obtain rfl : before = rest := List.tail_eq_of_cons_eq same
            exact closes body' after' anchorRest
          · rw [width_tags] at search ⊢
            rw [width, ← Nat.add_assoc]
            exact search
        · refine .inr ⟨fun before body after anchor => ?_, search⟩
          obtain ⟨rest, -, anchorRest⟩ := later anchor
          exact absent rest body after anchorRest

theorem FirstAnchor.unique {before' body' after' : List Char} (first : FirstAnchor cs before body after)
    (first' : FirstAnchor cs before' body' after') : before = before' ∧ body = body' := by
  have opens := Nat.le_antisymm (first.opens _ _ _ first'.anchor) (first'.opens _ _ _ first.anchor)
  obtain ⟨more, split, closes⟩ := first.anchor
  obtain ⟨more', split', closes'⟩ := first'.anchor
  obtain ⟨rfl, same⟩ := List.append_inj (split.symm.trans split') opens
  obtain rfl := List.append_cancel_left same
  have shorter := Nat.le_antisymm (first.closes _ _ first'.anchor) (first'.closes _ _ first.anchor)
  exact ⟨rfl, (List.append_inj (closes.split.symm.trans closes'.split) shorter).1⟩

/-! ### Years -/

theorem yearDigits?_eq_some {before : Nat} : yearDigits? cs = some (before, digits) ↔
    ∃ blank after, cs = yearWord ++ blank :: (digits ++ after) ∧ isBlank blank = true ∧ Numeral digits after ∧
      before = width (yearWord ++ [blank]) := by
  have wide (blank : Char) : width (yearWord ++ [blank]) = 4 + blank.utf8Size := width_concat yearWord blank
  constructor
  · intro named
    unfold yearDigits? at named
    split at named
    · next blank rest =>
      split at named
      · next isBlank =>
        obtain ⟨⟨run, after⟩, found, same⟩ := Option.map_eq_some_iff.mp named
        cases same
        obtain ⟨rfl, numeral⟩ := digitRun?_eq_some.mp found
        exact ⟨blank, after, rfl, isBlank, numeral, (wide blank).symm⟩
      · cases named
    · cases named
  · rintro ⟨blank, after, rfl, isBlank, numeral, rfl⟩
    have found := digitRun?_eq_some.mpr ⟨rfl, numeral⟩
    calc yearDigits? (yearWord ++ blank :: (digits ++ after))
      _ = (digitRun? (digits ++ after)).map fun (digits, _) => (4 + blank.utf8Size, digits) := if_pos isBlank
      _ = some (width (yearWord ++ [blank]), digits) := by rw [found, wide]; rfl

/-- A year is named where its digits are found. -/
theorem startsYear_iff : StartsYear cs ↔ ∃ found, yearDigits? cs = some found := by
  constructor
  · rintro ⟨blank, d, hblank, hd, rest, rfl⟩
    have nonempty : (d :: rest).takeWhile isDigitOfAnyScript ≠ [] := by
      rw [List.takeWhile_cons_of_pos hd]
      exact List.cons_ne_nil _ _
    refine ⟨_, yearDigits?_eq_some.mpr ⟨blank, _, ?_, hblank, numeral_takeWhile nonempty, rfl⟩⟩
    rw [List.takeWhile_append_dropWhile, List.append_assoc]
    rfl
  · rintro ⟨⟨before, digits⟩, found⟩
    obtain ⟨blank, after, rfl, hblank, numeral, -⟩ := yearDigits?_eq_some.mp found
    obtain ⟨d, more, rfl⟩ := List.exists_cons_of_ne_nil numeral.nonempty
    exact ⟨blank, d, hblank, numeral.digits d List.mem_cons_self, more ++ after, by simp⟩

theorem lastYear_cons (offset : Nat) (found : Option (Nat × List Char)) (c : Char) (cs : List Char) :
    lastYear offset found (c :: cs) = lastYear (offset + c.utf8Size)
      (((yearDigits? (c :: cs)).map fun year => (offset + year.1, year.2)) <|> found) cs := rfl

/-- A reading of the last year keeps what was found before only where no year is named. -/
theorem lastYear_cases (offset : Nat) (found : Option (Nat × List Char)) (cs : List Char) :
    (∃ before blank digits after, LastNamed cs before blank digits after ∧
      lastYear offset found cs = some (offset + width (before ++ (yearWord ++ [blank])), digits)) ∨
    ((∀ k, ¬StartsYear (cs.drop k)) ∧ lastYear offset found cs = found) := by
  induction cs generalizing offset found with
  | nil =>
      refine .inr ⟨fun k named => ?_, rfl⟩
      obtain ⟨_, none⟩ := startsYear_iff.mp named
      rw [List.drop_nil] at none
      cases none
  | cons c cs ih =>
      let here := (yearDigits? (c :: cs)).map fun year => (offset + year.1, year.2)
      rw [lastYear_cons]
      rcases ih (offset + c.utf8Size) (here <|> found) with
        ⟨before, blank, digits, after, ⟨rfl, hblank, numeral, last⟩, read⟩ | ⟨none, read⟩
      · refine .inl ⟨c :: before, blank, digits, after, ⟨rfl, hblank, numeral, fun k beyond => ?_⟩, ?_⟩
        · obtain ⟨k, rfl⟩ := Nat.exists_eq_add_one_of_ne_zero (Nat.ne_of_gt (Nat.zero_lt_of_lt beyond))
          exact last k (Nat.lt_of_succ_lt_succ beyond)
        · rw [read, List.cons_append, width, Nat.add_assoc]
      · rw [read]
        cases start : yearDigits? (c :: cs) with
        | none =>
            refine .inr ⟨fun k named => ?_, by simp only [here, start]; rfl⟩
            cases k with
            | zero =>
                obtain ⟨_, other⟩ := startsYear_iff.mp named
                rw [List.drop_zero, start] at other
                cases other
            | succ k => exact none k named
        | some year =>
            obtain ⟨blank, after, split, hblank, numeral, wide⟩ := yearDigits?_eq_some.mp start
            refine .inl ⟨[], blank, year.2, after, ⟨split, hblank, numeral, fun k beyond => ?_⟩, ?_⟩
            · obtain ⟨k, rfl⟩ := Nat.exists_eq_add_one_of_ne_zero (Nat.ne_of_gt beyond)
              exact none k
            · simp only [here, start, List.nil_append, ← wide]
              rfl

theorem LastNamed.startsYear (named : LastNamed cs before blank digits after) : StartsYear (cs.drop before.length) := by
  obtain ⟨rfl, hblank, numeral, -⟩ := named
  rw [List.drop_left, startsYear_iff]
  exact ⟨_, yearDigits?_eq_some.mpr ⟨blank, after, rfl, hblank, numeral, rfl⟩⟩

theorem LastNamed.unique {before' digits' after' : List Char} {blank' : Char}
    (named : LastNamed cs before blank digits after) (named' : LastNamed cs before' blank' digits' after') :
    before = before' ∧ blank = blank' ∧ digits = digits' := by
  have place : before.length = before'.length :=
    Nat.le_antisymm (Nat.not_lt.mp fun beyond => named'.last _ beyond named.startsYear)
      (Nat.not_lt.mp fun beyond => named.last _ beyond named'.startsYear)
  obtain ⟨rfl, same⟩ := List.append_inj (named.split.symm.trans named'.split) place
  obtain ⟨rfl, rest⟩ := List.cons_eq_cons.mp (List.append_cancel_left same)
  have run := digitRun?_eq_some.mpr ⟨rest, named'.numeral⟩
  rw [digitRun?_eq_some.mpr ⟨rfl, named.numeral⟩] at run
  cases run
  exact ⟨rfl, rfl, rfl⟩

/-! ### Years in turn -/

theorem yearDigits?_of_ne (other : c ≠ 'Y') (cs : List Char) : yearDigits? (c :: cs) = none := by
  unfold yearDigits?
  split
  · next same => exact absurd (List.cons_eq_cons.mp same).1 other
  · rfl

/-- No year starts where its word does not. -/
theorem lastYear_skip (offset : Nat) (found : Option (Nat × List Char)) (absent : 'Y' ∉ xs) (cs : List Char) :
    lastYear offset found (xs ++ cs) = lastYear (offset + width xs) found cs := by
  induction xs generalizing offset with
  | nil => rfl
  | cons x xs ih =>
      obtain ⟨hx, hxs⟩ := List.ne_and_not_mem_of_not_mem_cons absent
      rw [List.cons_append, lastYear_cons, yearDigits?_of_ne hx.symm, width, ← Nat.add_assoc]
      exact ih _ hxs

/-- Behind a year nothing of it starts another. -/
theorem lastYear_year (offset : Nat) (found : Option (Nat × List Char)) (hblank : isBlank blank = true)
    (numeral : Numeral digits after) : lastYear offset found (yearWord ++ blank :: (digits ++ after)) =
      lastYear (offset + width (yearWord ++ [blank]) + width digits)
        (some (offset + width (yearWord ++ [blank]), digits)) after := by
  have here : yearDigits? (yearWord ++ blank :: (digits ++ after)) = some (width (yearWord ++ [blank]), digits) :=
    yearDigits?_eq_some.mpr ⟨blank, after, rfl, hblank, numeral, rfl⟩
  have inside : 'Y' ∉ ['e', 'a', 'r', blank] ++ digits := by
    rw [List.mem_append, not_or]
    constructor
    · intro among
      obtain rfl : 'Y' = blank := by simpa using among
      cases hblank
    · intro among
      cases numeral.digits _ among
  have word : yearWord ++ blank :: (digits ++ after) = 'Y' :: (['e', 'a', 'r', blank] ++ digits ++ after) := rfl
  have wide : 1 + width ['e', 'a', 'r', blank] = width (yearWord ++ [blank]) := rfl
  calc lastYear offset found (yearWord ++ blank :: (digits ++ after))
    _ = lastYear (offset + 1) (some (offset + width (yearWord ++ [blank]), digits))
        (['e', 'a', 'r', blank] ++ digits ++ after) := by
      rw [word] at here ⊢
      rw [lastYear_cons, here]
      rfl
    _ = lastYear (offset + width (yearWord ++ [blank]) + width digits)
        (some (offset + width (yearWord ++ [blank]), digits)) after := by
      rw [lastYear_skip _ _ inside, width_append, ← wide, Nat.add_assoc, Nat.add_assoc, Nat.add_assoc]

/-- A search that goes on behind the digits of each year passes over none. -/
theorem lastYear_eq_getLast? (offset : Nat) (found : Option (Nat × List Char)) (cs : List Char) :
    lastYear offset found cs = (yearsInTurn offset cs).getLast?.or found := by
  fun_induction yearsInTurn offset cs generalizing found with
  | case1 offset => rfl
  | case2 offset c rest none ih =>
      rw [lastYear_cons, none]
      exact ih found
  | case3 offset c rest before digits here ih =>
      obtain ⟨blank, after, split, hblank, numeral, rfl⟩ := yearDigits?_eq_some.mp here
      have behind : rest.drop (4 + digits.length) = after := by
        have tail : rest = ['e', 'a', 'r', blank] ++ digits ++ after := List.tail_eq_of_cons_eq split
        rw [tail]
        exact List.drop_left' List.length_append
      rw [split, lastYear_year offset found hblank numeral, behind, ← behind, ih, List.getLast?_cons]
      cases (yearsInTurn _ _).getLast? <;> rfl

/-! ### Reading the head -/

/-- Digits of any script are read as a year where they are one. -/
theorem readInt32_digits (numeral : Numeral digits after) : readInt32 (String.ofList digits) =
    if IsYear digits then .ok (Int32.ofInt (Nat.ofDigitChars 10 digits 0)) else .error (yearFlaw digits) := by
  rw [readInt32, String.toList_ofList, numeral.readInteger, Text.readDigits_eq _ (Nat.zero_le _), yearFlaw]
  by_cases ascii : ∀ c ∈ digits, c.isDigit = true
  · rw [Text.takeWhile_isDigit ascii, if_pos (List.all_eq_true.mpr ascii)]
    by_cases large : Int32.maxValue.toInt.toNat < Nat.ofDigitChars 10 digits 0
    · rw [if_pos large, if_pos large, if_neg fun year : IsYear digits => Nat.not_le.mpr large year.2]
      rfl
    · have year : IsYear digits := ⟨ascii, Nat.not_lt.mp large⟩
      rw [if_neg large, if_pos year]
      rfl
  · rw [if_neg (mt List.all_eq_true.mp ascii), if_neg fun year : IsYear digits => ascii year.1]
    split <;> rfl

/-- The name that a text shows is that of its first anchor. -/
theorem name_cases (text : String) :
    (∃ before body after, FirstAnchor text.toList before body after ∧
      name text = .ok (String.ofList (trimChars body), width (before ++ opening ++ body ++ closing))) ∨
    ((∀ before body after, ¬Anchor text.toList before body after) ∧ name text = .error (.notFound "name")) := by
  unfold name
  rcases findAnchor_cases 0 text.toList with ⟨before, body, after, first, search⟩ | ⟨none, search⟩
  · rw [search, Nat.zero_add]
    exact .inl ⟨before, body, after, first, rfl⟩
  · rw [search]
    exact .inr ⟨none, rfl⟩

/-- The year that a text shows is the one that is named last, if these digits are a year. -/
theorem currentYear_cases (text : String) :
    (∃ before blank digits after, LastNamed text.toList before blank digits after ∧
      currentYear text =
        if IsYear digits then
          .ok (Int32.ofInt (Nat.ofDigitChars 10 digits 0), width (before ++ (yearWord ++ [blank]) ++ digits))
        else .error (invalidYear (width (before ++ (yearWord ++ [blank]))) digits)) ∨
    ((∀ k, ¬StartsYear (text.toList.drop k)) ∧ currentYear text = .error (.notFound "year")) := by
  unfold currentYear
  rcases lastYear_cases 0 none text.toList with ⟨before, blank, digits, after, named, search⟩ | ⟨none, search⟩
  · refine .inl ⟨before, blank, digits, after, named, ?_⟩
    rw [search, Nat.zero_add]
    simp only [readInt32_digits named.numeral]
    by_cases year : IsYear digits
    · simp only [if_pos year, width_append _ digits]
    · simp only [if_neg year]
      rfl
  · rw [search]
    exact .inr ⟨none, rfl⟩

theorem name_eq_ok {shown : String} : name text = .ok (shown, offset) ↔ ∃ before body after,
    FirstAnchor text.toList before body after ∧ shown = String.ofList (trimChars body) ∧
      offset = width (before ++ opening ++ body ++ closing) := by
  constructor
  · intro told
    rcases name_cases text with ⟨before, body, after, first, same⟩ | ⟨-, fails⟩
    · rw [same] at told
      cases told
      exact ⟨before, body, after, first, rfl, rfl⟩
    · rw [fails] at told
      cases told
  · rintro ⟨before, body, after, first, rfl, rfl⟩
    rcases name_cases text with ⟨before', body', after', first', told⟩ | ⟨none, -⟩
    · obtain ⟨rfl, rfl⟩ := first.unique first'
      exact told
    · exact absurd first.anchor (none before body after)

theorem name_eq_error {e : Error} : name text = .error e ↔
    e = .notFound "name" ∧ ∀ before body after, ¬Anchor text.toList before body after := by
  rcases name_cases text with ⟨before, body, after, first, told⟩ | ⟨none, fails⟩
  · rw [told]
    exact iff_of_false nofun fun absent => absent.2 before body after first.anchor
  · rw [fails, Except.error.injEq, eq_comm]
    exact (and_iff_left none).symm

theorem currentYear_eq_ok : currentYear text = .ok (year, offset) ↔ ∃ before blank digits after,
    LastNamed text.toList before blank digits after ∧ IsYear digits ∧
      year.toInt = Nat.ofDigitChars 10 digits 0 ∧ offset = width (before ++ (yearWord ++ [blank]) ++ digits) := by
  constructor
  · intro told
    rcases currentYear_cases text with ⟨before, blank, digits, after, named, same⟩ | ⟨-, fails⟩
    · by_cases fits : IsYear digits
      · rw [same, if_pos fits] at told
        cases told
        refine ⟨before, blank, digits, after, named, fits, ?_, rfl⟩
        have small := fits.2
        rw [Int32.toInt_maxValue] at small
        exact Int32.toInt_ofInt_of_le (by omega) (by omega)
      · rw [same, if_neg fits] at told
        cases told
    · rw [fails] at told
      cases told
  · rintro ⟨before, blank, digits, after, named, fits, value, rfl⟩
    rcases currentYear_cases text with ⟨before', blank', digits', after', named', told⟩ | ⟨none, -⟩
    · obtain ⟨rfl, rfl, rfl⟩ := named.unique named'
      rw [told, if_pos fits, ← value, Int32.ofInt_toInt]
    · exact absurd named.startsYear (none _)

theorem currentYear_eq_error {e : Error} : currentYear text = .error e ↔
    (e = .notFound "year" ∧ ∀ k, ¬StartsYear (text.toList.drop k)) ∨
    ∃ before blank digits after, LastNamed text.toList before blank digits after ∧ ¬IsYear digits ∧
      e = invalidYear (width (before ++ (yearWord ++ [blank]))) digits := by
  constructor
  · intro failed
    rcases currentYear_cases text with ⟨before, blank, digits, after, named, same⟩ | ⟨none, fails⟩
    · by_cases fits : IsYear digits
      · rw [same, if_pos fits] at failed
        cases failed
      · rw [same, if_neg fits] at failed
        exact .inr ⟨before, blank, digits, after, named, fits, (Except.error.inj failed).symm⟩
    · rw [fails] at failed
      exact .inl ⟨(Except.error.inj failed).symm, none⟩
  · intro why
    rcases currentYear_cases text with ⟨before, blank, digits, after, named, told⟩ | ⟨none, fails⟩
    · rcases why with ⟨-, none⟩ | ⟨before', blank', digits', after', named', unfit, rfl⟩
      · exact absurd named.startsYear (none _)
      · obtain ⟨rfl, rfl, rfl⟩ := named.unique named'
        rw [told, if_neg unfit]
    · rcases why with ⟨rfl, -⟩ | ⟨before, blank, digits, after, named, -⟩
      · exact fails
      · exact absurd named.startsYear (none _)

theorem FirstAnchor.isValid (first : FirstAnchor text.toList before body after) :
    (⟨width (before ++ opening ++ body ++ closing)⟩ : String.Pos.Raw).IsValid text := by
  obtain ⟨more, split, closes⟩ := first.anchor
  refine isValid_iff.mpr ⟨_, after, ?_, rfl⟩
  rw [split, closes.split]
  simp only [List.append_assoc]

theorem LastNamed.isValid (named : LastNamed text.toList before blank digits after) :
    (⟨width (before ++ (yearWord ++ [blank]))⟩ : String.Pos.Raw).IsValid text ∧
      (⟨width (before ++ (yearWord ++ [blank]) ++ digits)⟩ : String.Pos.Raw).IsValid text := by
  constructor
  · refine isValid_iff.mpr ⟨_, digits ++ after, ?_, rfl⟩
    rw [named.split]
    simp
  · refine isValid_iff.mpr ⟨_, after, ?_, rfl⟩
    rw [named.split]
    simp

/-- **The head of a marksheet follows its text.** The name is what stands, trimmed, in the first anchor that closes on its
line, up to the first tag that closes it, and there is none just where no anchor does. The year is the number that all
the digits behind the last word with a blank and a digit spell; where these are no year that is a fault at their place,
and no earlier year is tried. The offsets behind the name and the year are places between characters of the text. The
last year is also the last that a search comes upon which goes on behind the digits of each. -/
theorem head_follows_text (text : String) :
    (∀ shown offset, name text = .ok (shown, offset) ↔ ∃ before body after,
      FirstAnchor text.toList before body after ∧ shown = String.ofList (trimChars body) ∧
        offset = width (before ++ opening ++ body ++ closing)) ∧
    (∀ e, name text = .error e ↔ e = .notFound "name" ∧ ∀ before body after, ¬Anchor text.toList before body after) ∧
    (∀ year offset, currentYear text = .ok (year, offset) ↔ ∃ before blank digits after,
      LastNamed text.toList before blank digits after ∧ IsYear digits ∧
        year.toInt = Nat.ofDigitChars 10 digits 0 ∧ offset = width (before ++ (yearWord ++ [blank]) ++ digits)) ∧
    (∀ e, currentYear text = .error e ↔
      (e = .notFound "year" ∧ ∀ k, ¬StartsYear (text.toList.drop k)) ∨
      ∃ before blank digits after, LastNamed text.toList before blank digits after ∧ ¬IsYear digits ∧
        e = invalidYear (width (before ++ (yearWord ++ [blank]))) digits) ∧
    (∀ shown offset, name text = .ok (shown, offset) → (⟨offset⟩ : String.Pos.Raw).IsValid text) ∧
    (∀ year offset, currentYear text = .ok (year, offset) → (⟨offset⟩ : String.Pos.Raw).IsValid text) ∧
    lastYear 0 none text.toList = (yearsInTurn 0 text.toList).getLast? := by
  refine ⟨fun _ _ => name_eq_ok, fun _ => name_eq_error, fun _ _ => currentYear_eq_ok, fun _ => currentYear_eq_error,
    ?_, ?_, ?_⟩
  · intro shown offset told
    obtain ⟨before, body, after, first, -, rfl⟩ := name_eq_ok.mp told
    exact first.isValid
  · intro year offset told
    obtain ⟨before, blank, digits, after, named, -, -, rfl⟩ := currentYear_eq_ok.mp told
    exact named.isValid.2
  · rw [lastYear_eq_getLast?]
    exact Option.or_none

/-- An anchor that does not close on its line is passed over, and so is one that opens inside the first. -/
example : name "<a>Bo\n<a> Ada <a>Cy</a></a>" = .ok ("Ada <a>Cy", 23) := by decide +kernel

/-- Digits of another script end in a fault, though a year was named before. -/
example : currentYear "Year 9, Year 1٢ " =
    .error (.layout 14 "invalid year \"1٢\": invalid digit found in string") := by decide +kernel

end Gradebook.Marksheet
