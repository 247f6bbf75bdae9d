import Gradebook.Proofs.Json.Token

/-! JSON text read back. The compact text of a value stands for that value and no other, whatever follows it: every
element and member is read in front of the comma or bracket behind it, and each takes at least one character, so that
the fuel lasts. -/

namespace Gradebook.Json

variable {c : Char} {cs rest : List Char} {fuel : Nat}

/-! ### What can follow -/

theorem endsNumber_nil : EndsNumber [] := by
  intro c h
  cases h

theorem endsNumber_comma (cs : List Char) : EndsNumber (',' :: cs) := by
  rintro c ⟨⟩
  decide

theorem endsNumber_bracket (cs : List Char) : EndsNumber (']' :: cs) := by
  rintro c ⟨⟩
  decide

theorem endsNumber_brace (cs : List Char) : EndsNumber ('\x7d' :: cs) := by
  rintro c ⟨⟩
  decide

theorem skipGap_cons (shown : isGap c = false) (cs : List Char) : skipGap (c :: cs) = c :: cs := by
  rw [skipGap, List.dropWhile_cons_of_neg (by rw [shown]; exact Bool.false_ne_true)]

/-! ### Values without parts -/

theorem readValue_number (starts : c.isDigit = true ∨ c = '-') (cs : List Char) (fuel : Nat) :
    readValue (fuel + 1) (c :: cs) = readNumber (c :: cs) := by
  have shown : isGap c = false := by
    rcases starts with digit | rfl
    · simp only [isGap, Bool.or_eq_false_iff, decide_eq_false_iff_not]
      refine ⟨⟨⟨?_, ?_⟩, ?_⟩, ?_⟩ <;> rintro rfl <;> cases digit
    · decide
  rw [readValue, skipGap_cons shown]
  split <;> first | rfl | skip
  all_goals
    next same =>
      have first := (List.cons.inj same).1
      subst first
      rcases starts with digit | minus
      · cases digit
      · exact absurd minus (by decide)

/-- How a printed number starts. -/
theorem int_starts (n : Int) (cs : List Char) :
    ∃ c ds, (toString n).toList ++ cs = c :: ds ∧ (c.isDigit = true ∨ c = '-') := by
  rw [toString_int]
  cases decide (n < 0) with
  | true => exact ⟨'-', _, rfl, .inr rfl⟩
  | false =>
      obtain ⟨d, ds, digits⟩ := List.exists_cons_of_ne_nil (Nat.toDigits_ne_nil (n := n.natAbs) (b := 10))
      rw [digits]
      exact ⟨d, ds ++ cs, rfl, .inl (isDigit_of_mem (n := n.natAbs) (by rw [digits]; exact List.mem_cons_self))⟩

theorem decimal_starts (coefficient exponent : Int) (cs : List Char) :
    ∃ c ds, (decimalText coefficient exponent).toList ++ cs = c :: ds ∧ (c.isDigit = true ∨ c = '-') := by
  unfold decimalText
  split
  · exact ⟨'-', _, rfl, .inr rfl⟩
  · rw [String.toList_append, String.toList_append, List.append_assoc, List.append_assoc]
    exact int_starts coefficient _

theorem stringText_toList (s : String) :
    (stringText s).toList = '"' :: (s.toList.flatMap escapeChar ++ ['"']) := by
  rw [stringText, String.toList_ofList, List.cons_append]

theorem readValue_string (s : String) (fuel : Nat) (rest : List Char) :
    readValue (fuel + 1) ((stringText s).toList ++ rest) = some (.str s, rest) := by
  have text : (stringText s).toList ++ rest = '"' :: (s.toList.flatMap escapeChar ++ '"' :: rest) := by
    rw [stringText_toList]
    simp
  rw [text, readValue, skipGap_cons rfl]
  simp only [readUnits_escaped, unitsText?_units, Option.bind_eq_bind, Option.bind_some, String.ofList_toList]
  rfl

/-! ### Parts -/

/-- The text between the brackets of an array. -/
def elementsText (values : List Json) : List Char := (commaSeparated (compactElements values)).toList

/-- The text between the braces of an object. -/
def membersText (members : List (String × Json)) : List Char := (commaSeparated (compactMembers members)).toList

theorem compact_arr (values : List Json) : (compact (.arr values)).toList = '[' :: (elementsText values ++ [']']) := by
  rw [compact, String.toList_append, String.toList_append]
  rfl

theorem compact_obj (members : List (String × Json)) :
    (compact (.obj members)).toList = '\x7b' :: (membersText members ++ ['\x7d']) := by
  rw [compact, String.toList_append, String.toList_append]
  rfl

theorem elementsText_one (value : Json) : elementsText [value] = (compact value).toList := by
  rw [elementsText, compactElements, compactElements, commaSeparated, String.intercalate_singleton]

theorem elementsText_cons (value next : Json) (more : List Json) : elementsText (value :: next :: more) =
    (compact value).toList ++ ',' :: elementsText (next :: more) := by
  rw [elementsText, compactElements, compactElements, commaSeparated, String.intercalate_cons_cons,
    String.toList_append, String.toList_append, List.append_assoc]
  rfl

theorem membersText_one (name : String) (value : Json) :
    membersText [(name, value)] = (stringText name).toList ++ ':' :: (compact value).toList := by
  rw [membersText, compactMembers, compactMembers, commaSeparated, String.intercalate_singleton,
    String.toList_append, String.toList_append, List.append_assoc]
  rfl

theorem membersText_cons (name : String) (value : Json) (next : String × Json) (more : List (String × Json)) :
    membersText ((name, value) :: next :: more) =
      (stringText name).toList ++ ':' :: ((compact value).toList ++ ',' :: membersText (next :: more)) := by
  rw [membersText, compactMembers, compactMembers, commaSeparated, String.intercalate_cons_cons]
  simp only [String.toList_append, List.append_assoc]
  rfl

/-- No printed value starts with a gap or a closing bracket. -/
theorem compact_starts (value : Json) :
    ∃ c cs, (compact value).toList = c :: cs ∧ isGap c = false ∧ c ≠ ']' := by
  have number {c : Char} (starts : c.isDigit = true ∨ c = '-') : isGap c = false ∧ c ≠ ']' := by
    rcases starts with digit | rfl
    · simp only [isGap, Bool.or_eq_false_iff, decide_eq_false_iff_not]
      refine ⟨⟨⟨⟨?_, ?_⟩, ?_⟩, ?_⟩, ?_⟩ <;> rintro rfl <;> cases digit
    · decide
  cases value with
  | null => exact ⟨'n', _, rfl, by decide⟩
  | bool b => cases b <;> exact ⟨_, _, rfl, by decide⟩
  | int n =>
      obtain ⟨c, cs, text, starts⟩ := int_starts n []
      rw [List.append_nil] at text
      exact ⟨c, cs, by rw [compact]; exact text, number starts⟩
  | decimal coefficient exponent =>
      obtain ⟨c, cs, text, starts⟩ := decimal_starts coefficient exponent []
      rw [List.append_nil] at text
      exact ⟨c, cs, by rw [compact]; exact text, number starts⟩
  | str s => exact ⟨'"', _, by rw [compact]; exact stringText_toList s, by decide⟩
  | garbled => exact ⟨'"', _, rfl, by decide⟩
  | arr values => exact ⟨'[', _, compact_arr values, by decide⟩
  | obj members => exact ⟨'\x7b', _, compact_obj members, by decide⟩

theorem readValue_array (fuel : Nat) {values : List Json} {cs after : List Char} (shown : isGap c = false)
    (opens : c ≠ ']') (reads : readElements fuel (c :: cs) = some (values, after)) :
    readValue (fuel + 1) ('[' :: c :: cs) = some (.arr values, after) := by
  rw [readValue, skipGap_cons rfl]
  simp only [skipGap_cons shown, reads]
  split
  · next same => exact absurd (List.cons.inj same).1 opens
  · rfl

theorem ofMembers_named (members : List (String × Json)) :
    ofMembers (members.map fun member => (some member.1, member.2)) = .obj members := by
  have named : (members.map fun member => (some member.1, member.2)).mapM
      (fun member : Option String × Json => member.1.map (·, member.2)) = some members := by
    induction members with
    | nil => rfl
    | cons member rest ih => rw [List.map_cons, List.mapM_cons, ih]; rfl
  unfold ofMembers
  simp only [named]

theorem readValue_object (fuel : Nat) {members : List (String × Json)} {cs after : List Char}
    (reads : readMembers fuel ('"' :: cs) = some (members.map fun member => (some member.1, member.2), after)) :
    readValue (fuel + 1) ('\x7b' :: '"' :: cs) = some (.obj members, after) := by
  rw [readValue, skipGap_cons rfl]
  simp only [skipGap_cons (show isGap '"' = false by decide), reads, Option.bind_eq_bind, Option.bind_some,
    ofMembers_named]
  rfl

theorem elementsText_starts (value : Json) (more : List Json) :
    ∃ c cs, elementsText (value :: more) = c :: cs ∧ isGap c = false ∧ c ≠ ']' := by
  obtain ⟨c, cs, text, starts⟩ := compact_starts value
  cases more with
  | nil => exact ⟨c, cs, by rw [elementsText_one, text], starts⟩
  | cons next more => exact ⟨c, _, by rw [elementsText_cons, text]; rfl, starts⟩

theorem membersText_starts (member : String × Json) (more : List (String × Json)) :
    ∃ cs, membersText (member :: more) = '"' :: cs := by
  obtain ⟨name, value⟩ := member
  cases more with
  | nil => exact ⟨_, by rw [membersText_one, stringText_toList]; rfl⟩
  | cons next more => exact ⟨_, by rw [membersText_cons, stringText_toList]; rfl⟩

theorem readMembers_more {name : String} {value : Json} {members : List (Option String × Json)}
    {cs more after : List Char} (first : readValue fuel cs = some (value, ',' :: more))
    (others : readMembers fuel more = some (members, after)) :
    readMembers (fuel + 1) ((stringText name).toList ++ ':' :: cs) = some ((some name, value) :: members, after) := by
  rw [stringText_toList, List.cons_append, List.append_assoc, readMembers, skipGap_cons rfl]
  simp only [List.singleton_append, readUnits_escaped, unitsText?_units, Option.bind_eq_bind, Option.bind_some,
    Option.map_some, String.ofList_toList, skipGap_cons (show isGap ':' = false by decide), first,
    skipGap_cons (show isGap ',' = false by decide), others]
  rfl

theorem readMembers_last {name : String} {value : Json} {cs after : List Char}
    (last : readValue fuel cs = some (value, '\x7d' :: after)) :
    readMembers (fuel + 1) ((stringText name).toList ++ ':' :: cs) = some ([(some name, value)], after) := by
  rw [stringText_toList, List.cons_append, List.append_assoc, readMembers, skipGap_cons rfl]
  simp only [List.singleton_append, readUnits_escaped, unitsText?_units, Option.bind_eq_bind, Option.bind_some,
    Option.map_some, String.ofList_toList, skipGap_cons (show isGap ':' = false by decide), last,
    skipGap_cons (show isGap '\x7d' = false by decide)]
  rfl

theorem readElements_more {value : Json} {values : List Json} {cs more after : List Char}
    (first : readValue fuel cs = some (value, ',' :: more)) (others : readElements fuel more = some (values, after)) :
    readElements (fuel + 1) cs = some (value :: values, after) := by
  rw [readElements, first]
  simp only [Option.bind_eq_bind, Option.bind_some, skipGap_cons (show isGap ',' = false by decide), others]
  rfl

theorem readElements_last {value : Json} {cs after : List Char}
    (last : readValue fuel cs = some (value, ']' :: after)) : readElements (fuel + 1) cs = some ([value], after) := by
  rw [readElements, last]
  rfl

/-! ### Whole values -/

theorem compact_length (value : Json) : 0 < (compact value).toList.length := by
  obtain ⟨c, cs, text, -⟩ := compact_starts value
  rw [text]
  exact Nat.succ_pos _

/-- With this much fuel every printed value that it lasts for is read back. -/
def ReadsValues (fuel : Nat) : Prop :=
  ∀ (value : Json) (rest : List Char), 2 * (compact value).toList.length ≤ fuel + 1 → EndsNumber rest →
    readValue fuel ((compact value).toList ++ rest) = some (value, rest)

/-- The same for the elements of an array, up to the bracket that closes it. -/
def ReadsElements (fuel : Nat) : Prop :=
  ∀ (value : Json) (more : List Json) (rest : List Char), 2 * (elementsText (value :: more)).length ≤ fuel →
    readElements fuel (elementsText (value :: more) ++ ']' :: rest) = some (value :: more, rest)

/-- The same for the members of an object, each under the name it was printed with. -/
def ReadsMembers (fuel : Nat) : Prop :=
  ∀ (member : String × Json) (more : List (String × Json)) (rest : List Char),
    2 * (membersText (member :: more)).length ≤ fuel →
      readMembers fuel (membersText (member :: more) ++ '\x7d' :: rest) =
        some ((member :: more).map fun member => (some member.1, member.2), rest)

theorem readsValues_succ (elements : ReadsElements fuel) (members : ReadsMembers fuel) : ReadsValues (fuel + 1) := by
  intro value rest fuelled ends
  cases value with
  | null => rfl
  | bool b => cases b <;> rfl
  | int n =>
      obtain ⟨c, cs, text, starts⟩ := int_starts n rest
      rw [compact, text, readValue_number starts, ← text, readNumber_int n ends]
  | decimal coefficient exponent =>
      obtain ⟨c, cs, text, starts⟩ := decimal_starts coefficient exponent rest
      rw [compact, text, readValue_number starts, ← text, readNumber_decimal coefficient exponent ends]
  | str s =>
      rw [compact]
      exact readValue_string s fuel rest
  | garbled => rfl
  | arr values =>
      cases values with
      | nil => rfl
      | cons value more =>
          rw [compact_arr, List.length_cons, List.length_append] at fuelled
          have reads := elements value more rest (by omega)
          obtain ⟨c, cs, text, shown, opens⟩ := elementsText_starts value more
          rw [text] at reads
          rw [compact_arr, text, List.cons_append, List.append_assoc]
          exact readValue_array fuel shown opens reads
  | obj parts =>
      cases parts with
      | nil => rfl
      | cons member more =>
          rw [compact_obj, List.length_cons, List.length_append] at fuelled
          have reads := members member more rest (by omega)
          obtain ⟨cs, text⟩ := membersText_starts member more
          rw [text] at reads
          rw [compact_obj, text, List.cons_append, List.append_assoc]
          exact readValue_object fuel reads

theorem readsElements_succ (values : ReadsValues fuel) (elements : ReadsElements fuel) :
    ReadsElements (fuel + 1) := by
  intro value more rest fuelled
  cases more with
  | nil =>
      rw [elementsText_one] at fuelled ⊢
      exact readElements_last (values value (']' :: rest) (by omega) (endsNumber_bracket rest))
  | cons next more =>
      rw [elementsText_cons, List.length_append, List.length_cons] at fuelled
      have first := values value (',' :: (elementsText (next :: more) ++ ']' :: rest)) (by omega) (endsNumber_comma _)
      have others := elements next more rest (by omega)
      rw [elementsText_cons, List.append_assoc, List.cons_append]
      exact readElements_more first others

theorem readsMembers_succ (values : ReadsValues fuel) (members : ReadsMembers fuel) : ReadsMembers (fuel + 1) := by
  rintro ⟨name, value⟩ more rest fuelled
  cases more with
  | nil =>
      rw [membersText_one, List.length_append, List.length_cons] at fuelled
      have last := values value ('\x7d' :: rest) (by omega) (endsNumber_brace rest)
      rw [membersText_one, List.append_assoc, List.cons_append]
      exact readMembers_last last
  | cons next more =>
      rw [membersText_cons, List.length_append, List.length_cons, List.length_append, List.length_cons] at fuelled
      have first := values value (',' :: (membersText (next :: more) ++ '\x7d' :: rest)) (by omega)
        (endsNumber_comma _)
      have others := members next more rest (by omega)
      rw [membersText_cons, List.append_assoc, List.cons_append, List.append_assoc, List.cons_append]
      exact readMembers_more first others

theorem reads_compact (fuel : Nat) : ReadsValues fuel ∧ ReadsElements fuel ∧ ReadsMembers fuel := by
  induction fuel with
  | zero =>
      refine ⟨?_, ?_, ?_⟩
      · intro value rest fuelled
        have := compact_length value
        omega
      · intro value more rest fuelled
        obtain ⟨c, cs, text, -⟩ := elementsText_starts value more
        rw [text, List.length_cons] at fuelled
        omega
      · intro member more rest fuelled
        obtain ⟨cs, text⟩ := membersText_starts member more
        rw [text, List.length_cons] at fuelled
        omega
  | succ fuel ih =>
      obtain ⟨values, elements, members⟩ := ih
      exact ⟨readsValues_succ elements members, readsElements_succ values elements, readsMembers_succ values members⟩

/-- **Compact text stands for its value.** Whatever the value, reading the compact text of it gives the value back:
the strings with every escape, the numbers of any size, and the members in the order they were printed in. -/
theorem parse?_compact (value : Json) : parse? (compact value) = some value := by
  have reads := (reads_compact (2 * (compact value).toList.length + 2)).1 value [] (by omega)
    endsNumber_nil
  rw [List.append_nil] at reads
  rw [parse?, reads]
  rfl

/-! ### One line -/

/-- A line break within a string is escaped. -/
theorem newline_not_mem_escapeChar (c : Char) : '\n' ∉ escapeChar c := by
  have hex : ∀ n < 16, '\n' ≠ hexDigit n := by decide
  unfold escapeChar
  iterate 7
    split
    · decide
  split
  · next control =>
    have high := hex (c.toNat / 16) (by omega)
    have low := hex (c.toNat % 16) (Nat.mod_lt _ (by decide))
    simp [high, low]
  · next _ _ newline _ _ _ _ _ => simpa using Ne.symm newline

theorem newline_not_mem_stringText (s : String) : '\n' ∉ (stringText s).toList := by
  rw [stringText_toList]
  simp [newline_not_mem_escapeChar]

theorem newline_not_mem_int (n : Int) : '\n' ∉ (toString n).toList := by
  intro among
  rcases Text.mem_toString_int among with same | digit
  · cases same
  · cases digit

mutual

/-- **Compact text is one line.** -/
theorem newline_not_mem_compact : ∀ value : Json, '\n' ∉ (compact value).toList
  | .null => by decide
  | .bool true => by decide
  | .bool false => by decide
  | .int n => by
      rw [compact]
      exact newline_not_mem_int n
  | .decimal coefficient exponent => by
      rw [compact, decimalText]
      split
      · decide
      · rw [String.toList_append, String.toList_append, List.mem_append, List.mem_append]
        simp only [newline_not_mem_int, or_false, false_or]
        decide
  | .str s => by
      rw [compact]
      exact newline_not_mem_stringText s
  | .garbled => by decide
  | .arr values => by
      rw [compact_arr]
      simp [newline_not_mem_elementsText values]
  | .obj members => by
      rw [compact_obj]
      simp [newline_not_mem_membersText members]

theorem newline_not_mem_elementsText : ∀ values : List Json, '\n' ∉ elementsText values
  | [] => by decide
  | [value] => by
      rw [elementsText_one]
      exact newline_not_mem_compact value
  | value :: next :: more => by
      rw [elementsText_cons]
      simp [newline_not_mem_compact value, newline_not_mem_elementsText (next :: more)]

theorem newline_not_mem_membersText : ∀ members : List (String × Json), '\n' ∉ membersText members
  | [] => by decide
  | [(name, value)] => by
      rw [membersText_one]
      simp [newline_not_mem_stringText, newline_not_mem_compact value]
  | (name, value) :: next :: more => by
      rw [membersText_cons]
      simp [newline_not_mem_stringText, newline_not_mem_compact value, newline_not_mem_membersText (next :: more)]

end

end Gradebook.Json
