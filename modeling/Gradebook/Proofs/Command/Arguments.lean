import Gradebook.Command.Invocation
import Gradebook.Proofs.Except
import Gradebook.Proofs.Period

/-! Options with their values attached. An option is cut at its first equals sign, so a value reaches its reader as it
stands, also where it starts with a minus sign or holds equals signs, slashes or blanks. -/

namespace Gradebook.Command

namespace Given

variable {name value : String} {g : Given}

theorem toList_attached (name value : String) : (name ++ "=" ++ value).toList = name.toList ++ '=' :: value.toList := by
  simp

theorem cutOption_attached (plain : '=' ∉ name.toList) (value : String) :
    cutOption (name ++ "=" ++ value) = (name, some value) := by
  have front : (name.toList ++ '=' :: value.toList).takeWhile (· ≠ '=') = name.toList := by
    rw [List.takeWhile_append_of_pos]
    · simp
    · intro c hc
      simpa using ne_of_mem_of_not_mem hc plain
  have behind : (name.toList ++ '=' :: value.toList).drop (name.toList.length + 1) = value.toList := by
    rw [Nat.add_comm, ← List.drop_drop]
    simp
  unfold cutOption
  dsimp only
  rw [toList_attached, front, behind, if_pos (by simp)]
  simp only [String.ofList_toList]

/-- The name of an option, written in full. -/
structure IsLong (name : String) : Prop where
  dashes : ∃ word, name.toList = '-' :: '-' :: word
  plain : '=' ∉ name.toList

/-- An option that the command knows and that was not given before takes the value that is attached to it. -/
theorem readFrom_attached (shape : Shape) (g : Given) (long : IsLong name) (known : name ∈ shape.options)
    (noSwitch : name ∉ shape.switches) (new : g.values.lookup name = none) (value : String) (rest : List String) :
    readFrom shape none g ((name ++ "=" ++ value) :: rest) =
      readFrom shape none { g with values := g.values ++ [(name, value)] } rest := by
  obtain ⟨⟨word, dashes⟩, plain⟩ := long
  have chars := toList_attached name value
  have sign : '=' ∈ (name ++ "=" ++ value).toList := by simp
  have other {s : String} (absent : '=' ∉ s.toList) : name ++ "=" ++ value ≠ s := by
    rintro rfl
    exact absent sign
  have isOption : isOption (name ++ "=" ++ value) = true := by
    rw [Given.isOption, chars, dashes]
    rfl
  have noInquiry : inquiry? (name ++ "=" ++ value) = none := by
    rw [inquiry?, if_neg (other (by decide)), if_neg (other (by decide)), chars, dashes]
    rfl
  have reads : g.readOption shape (name ++ "=" ++ value) =
      .ok (none, { g with values := g.values ++ [(name, value)] }) := by
    unfold readOption
    rw [cutOption_attached plain]
    simp [noSwitch, known, addValue, new, Except.map]
  rw [readFrom]
  simp only [if_neg (other (s := "--") (by decide)), isOption, noInquiry, reads]
  rfl

theorem value?_eq {α : Type} {read : String → Option α} {x : α} (given : g.values.lookup name = some value)
    (reads : read value = some x) : g.value? name read = .ok (some x) := by
  rw [value?, given]
  dsimp only
  rw [reads]

end Given

/-- A call for the marks of a pupil between two periods, with each value attached to its option. -/
def refreshMarksCall (pid : PupilId) (first last : Period) : List String :=
  ["refresh-marks", "--pid=" ++ pid.text, "--from=" ++ first.text, "--to=" ++ last.text]

theorem readPupil_text (pid : PupilId) : readPupil pid.text = some pid := by
  rw [readPupil, PupilId.text, Text.readInt64_toString]
  rfl

theorem readPeriod_text {p : Period} (legible : p.Legible) : readPeriod p.text = some p := by
  rw [readPeriod, Period.parse_text.mpr legible]
  rfl

/-- A call that names periods by their texts asks for these periods. -/
theorem ofArguments_refreshMarks (pid : PupilId) {first last : Period} (since : first.Legible) (upto : last.Legible) :
    Call.ofArguments (refreshMarksCall pid first last) = .ok (.run (.refreshMarks ⟨pid, first, last⟩)) := by
  let shape : Shape := { options := ["--pid", "--from", "--to"] }
  have given : Given.read shape ["--pid=" ++ pid.text, "--from=" ++ first.text, "--to=" ++ last.text] =
      .ok { values := [("--pid", pid.text), ("--from", first.text), ("--to", last.text)] } := by
    have pidLong : Given.IsLong "--pid" := ⟨⟨_, rfl⟩, by decide⟩
    have fromLong : Given.IsLong "--from" := ⟨⟨_, rfl⟩, by decide⟩
    have toLong : Given.IsLong "--to" := ⟨⟨_, rfl⟩, by decide⟩
    have pidOption := Given.readFrom_attached shape {} pidLong (by decide) (by decide) rfl pid.text
      ["--from=" ++ first.text, "--to=" ++ last.text]
    have fromOption := Given.readFrom_attached shape { values := [("--pid", pid.text)] } fromLong (by decide)
      (by decide) rfl first.text ["--to=" ++ last.text]
    have toOption := Given.readFrom_attached shape { values := [("--pid", pid.text), ("--from", first.text)] } toLong
      (by decide) (by decide) rfl last.text []
    exact pidOption.trans (fromOption.trans toOption)
  have reads : callRefreshMarks ["--pid=" ++ pid.text, "--from=" ++ first.text, "--to=" ++ last.text] =
      .ok (.run (.refreshMarks ⟨pid, first, last⟩)) := by
    unfold callRefreshMarks
    refine except_bind_eq_ok.mpr ⟨_, given, ?_⟩
    refine except_bind_eq_ok.mpr ⟨some pid, Given.value?_eq rfl (readPupil_text pid), ?_⟩
    refine except_bind_eq_ok.mpr ⟨some first, Given.value?_eq rfl (readPeriod_text since), ?_⟩
    exact except_bind_eq_ok.mpr ⟨some last, Given.value?_eq rfl (readPeriod_text upto), rfl⟩
  exact reads

end Gradebook.Command
