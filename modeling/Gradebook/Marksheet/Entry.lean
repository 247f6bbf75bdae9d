import Gradebook.Marksheet.Place
import Gradebook.Percentage

/-! The entries of a marksheet. An entry is laid out as `TAB 87, Mathematics, Mr Smith<`: a percentage
after a tab, the subject between the next two commas, and the teacher after the last comma before the
next tag. The portal writes some tabs as a backslash and a letter. An entry that breaks this layout is
an error and is never skipped. -/

namespace Gradebook.Marksheet

/-- A mark as a marksheet shows it. -/
structure Entry where
  subject : String
  teacher : String
  percentage : Percentage
  deriving DecidableEq, Repr

/-- The digits of the percentage token that starts here, the width of the tab, and what follows. -/
def percentageToken? : List Char → Option (Nat × List Char × List Char)
  | '\t' :: rest => (digitRun? rest).map fun (digits, after) => (1, digits, after)
  | '\\' :: 't' :: rest => (digitRun? rest).map fun (digits, after) => (2, digits, after)
  | _ => none

/-- The digits of the first percentage token, the offset just past it, and what follows. -/
def findPercentage (offset : Nat) : List Char → Option (List Char × Nat × List Char)
  | [] => none
  | c :: rest =>
    match percentageToken? (c :: rest) with
    | some (tab, digits, after) => some (digits, offset + tab + width digits, after)
    | none => findPercentage (offset + c.utf8Size) rest

/-- The percentage that digits spell. -/
def percentageOf (digits : List Char) : Except Error Percentage :=
  let raw := String.ofList digits
  match Text.readInt64 raw with
  | .ok n =>
    match Percentage.ofInt? n.toInt with
    | some p => .ok p
    | none => .error (.badPercentage raw)
  | .error _ => .error (.badPercentage raw)

/-- The characters after one space, if there is one, and its width. -/
def dropSpace : List Char → Nat × List Char
  | ' ' :: rest => (1, rest)
  | cs => (0, cs)

/-- The text between the next two commas. Stops on the second comma. -/
def readSubject (offset : Nat) (cs : List Char) : Except Error (String × Nat × List Char) :=
  match Text.cutAt ',' cs with
  | (_, none) => .error (.layout offset "no comma after percentage")
  | (before, some rest) =>
    let (space, rest) := dropSpace rest
    let start := offset + width before + 1 + space
    match Text.cutAt ',' rest with
    | (_, none) => .error (.layout start "no comma after subject")
    | (body, some after) =>
      let subject := Text.trimChars body
      if subject.isEmpty then .error (.layout start "empty subject")
      else .ok (String.ofList subject, start + width body, ',' :: after)

/-- The characters after the last comma, if there is one. -/
def afterLastComma? (cs : List Char) : Option (List Char) :=
  if ',' ∈ cs then some (cs.reverse.takeWhile (· ≠ ',')).reverse else none

/-- The text after the last comma before the next tag. Stops on the tag. -/
def readTeacher (offset : Nat) (cs : List Char) : Except Error (String × Nat × List Char) :=
  match Text.cutAt '<' cs with
  | (_, none) => .error (.layout offset "no tag after subject")
  | (before, some after) =>
    match afterLastComma? before with
    | none => .error (.layout offset "no comma before teacher")
    | some teacher =>
      .ok (String.ofList (Text.trimChars teacher), offset + width before, '<' :: after)

/-- The first entry of the characters that start at `offset`, the offset to resume from, and the
characters from there on. -/
def entryFrom (offset : Nat) (cs : List Char) : Except Error (Entry × Nat × List Char) :=
  match findPercentage offset cs with
  | none => .error (.notFound "percentage")
  | some (digits, afterDigits, rest) => do
    let percentage ← percentageOf digits
    let (subject, atComma, rest) ← readSubject afterDigits rest
    let (teacher, atTag, rest) ← readTeacher atComma rest
    pure (⟨subject, teacher, percentage⟩, atTag, rest)

/-- The first entry at or after a byte offset, and the offset to resume from. -/
def entryAt (text : String) (offset : Nat) : Except Error (Entry × Nat) :=
  match dropBytes offset text.toList with
  | none => .error (.layout offset "offset outside render")
  | some cs => (entryFrom offset cs).map fun (entry, resume, _) => (entry, resume)

/-! Each reader leaves fewer characters than it was given, which is why reading entry after entry ends. -/

theorem cutAt_length {sep : Char} {cs head rest : List Char}
    (h : Text.cutAt sep cs = (head, some rest)) : rest.length < cs.length := by
  induction cs generalizing head with
  | nil => simp [Text.cutAt] at h
  | cons c cs ih =>
    by_cases hc : c = sep
    · simp [Text.cutAt, hc] at h
      simp [← h.2]
    · simp only [Text.cutAt, hc, if_false] at h
      obtain ⟨_, h⟩ := Prod.mk.inj h
      have hcs : Text.cutAt sep cs = ((Text.cutAt sep cs).1, some rest) := by rw [← h]
      have := ih hcs
      simp only [List.length_cons]
      omega

theorem digitRun?_length {cs digits after : List Char} (h : digitRun? cs = some (digits, after)) :
    after.length ≤ cs.length := by
  unfold digitRun? at h
  split at h
  · cases h
  · cases h
    exact (List.dropWhile_suffix _).length_le

theorem percentageToken?_length {cs digits after : List Char} {tab : Nat}
    (h : percentageToken? cs = some (tab, digits, after)) : after.length < cs.length := by
  unfold percentageToken? at h
  split at h
  · obtain ⟨⟨d, a⟩, hd, he⟩ := Option.map_eq_some_iff.1 h
    cases he
    have := digitRun?_length hd
    simp only [List.length_cons]
    omega
  · obtain ⟨⟨d, a⟩, hd, he⟩ := Option.map_eq_some_iff.1 h
    cases he
    have := digitRun?_length hd
    simp only [List.length_cons]
    omega
  · cases h

theorem findPercentage_length {offset past : Nat} {cs digits after : List Char}
    (h : findPercentage offset cs = some (digits, past, after)) : after.length < cs.length := by
  induction cs generalizing offset with
  | nil => simp [findPercentage] at h
  | cons c cs ih =>
    unfold findPercentage at h
    split at h
    · rename_i hp
      cases h
      exact percentageToken?_length hp
    · have := ih h
      simp only [List.length_cons]
      omega

theorem dropSpace_length (cs : List Char) : (dropSpace cs).2.length ≤ cs.length := by
  unfold dropSpace
  split <;> simp

theorem readSubject_length {offset past : Nat} {cs after : List Char} {subject : String}
    (h : readSubject offset cs = .ok (subject, past, after)) : after.length < cs.length := by
  unfold readSubject at h
  split at h
  · cases h
  · rename_i before rest hc
    have h1 := cutAt_length hc
    have h2 := dropSpace_length rest
    simp only at h
    split at h
    · cases h
    · rename_i body tail hs
      have h3 := cutAt_length hs
      split at h
      · cases h
      · cases h
        simp only [List.length_cons]
        omega

theorem readTeacher_length {offset past : Nat} {cs after : List Char} {teacher : String}
    (h : readTeacher offset cs = .ok (teacher, past, after)) : after.length ≤ cs.length := by
  unfold readTeacher at h
  split at h
  · cases h
  · rename_i before rest hc
    have h1 := cutAt_length hc
    split at h
    · cases h
    · cases h
      simp only [List.length_cons]
      omega

theorem entryFrom_length {offset past : Nat} {cs after : List Char} {entry : Entry}
    (h : entryFrom offset cs = .ok (entry, past, after)) : after.length < cs.length := by
  unfold entryFrom at h
  split at h
  · cases h
  · rename_i digits afterDigits rest hf
    have h1 := findPercentage_length hf
    cases hp : percentageOf digits with
    | error e => simp [hp, bind, Except.bind] at h
    | ok p =>
      cases hs : readSubject afterDigits rest with
      | error e => simp [hp, hs, bind, Except.bind] at h
      | ok s =>
        obtain ⟨subject, atComma, rest'⟩ := s
        cases ht : readTeacher atComma rest' with
        | error e => simp [hp, hs, ht, bind, Except.bind] at h
        | ok t =>
          obtain ⟨teacher, atTag, rest''⟩ := t
          have h2 := readSubject_length hs
          have h3 := readTeacher_length ht
          simp [hp, hs, ht, bind, Except.bind, pure, Except.pure] at h
          obtain ⟨_, _, rfl⟩ := h
          omega

/-- The entries of the characters that start at `offset`, in order, up to the end or the first error. -/
def entriesFrom (offset : Nat) (cs : List Char) : Except Error (List Entry) :=
  match h : entryFrom offset cs with
  | .ok (entry, resume, rest) =>
    have : rest.length < cs.length := entryFrom_length h
    (entriesFrom resume rest).map (entry :: ·)
  | .error (.notFound _) => .ok []
  | .error e => .error e
  termination_by cs.length

/-- Every entry of a marksheet, in order; one error discards them all. -/
def entries (text : String) : Except Error (List Entry) := entriesFrom 0 text.toList

end Gradebook.Marksheet
