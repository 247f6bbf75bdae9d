import Gradebook.Marksheet.Place

/-! The head of a marksheet: the pupil's name, in the first anchor that closes on its line, and the year in
the program, which the portal repeats on every row and of which the last one holds. -/

namespace Gradebook.Marksheet

/-- The characters before the first closing anchor, if it comes before the end of the line, and what
follows it. -/
def anchorBody? : List Char → Option (List Char × List Char)
  | '<' :: '/' :: 'a' :: '>' :: rest => some ([], rest)
  | [] => none
  | c :: rest =>
    if c = '\n' then none
    else (anchorBody? rest).map fun (body, after) => (c :: body, after)

/-- The body of the anchor that starts here, and what follows it. -/
def anchor? : List Char → Option (List Char × List Char)
  | '<' :: 'a' :: '>' :: rest => anchorBody? rest
  | _ => none

/-- The body of the first anchor, and the offset just past it. -/
def findAnchor (offset : Nat) : List Char → Option (List Char × Nat)
  | [] => none
  | c :: rest =>
    match anchor? (c :: rest) with
    | some (body, _) => some (body, offset + 7 + width body)
    | none => findAnchor (offset + c.utf8Size) rest

/-- The pupil's name, and the offset just past its anchor. -/
def name (text : String) : Except Error (String × Nat) :=
  match findAnchor 0 text.toList with
  | some (body, after) => .ok (String.ofList (Text.trimChars body), after)
  | none => .error (.notFound "name")

/-- The digits of the year that is named here: the word, one blank, and a run of digits. Gives the
width of the word and the blank, and the digits. -/
def yearDigits? : List Char → Option (Nat × List Char)
  | 'Y' :: 'e' :: 'a' :: 'r' :: blank :: rest =>
    if Text.isBlank blank then
      (digitRun? rest).map fun (digits, _) => (4 + blank.utf8Size, digits)
    else none
  | _ => none

/-- The offset and the digits of the last year that is named, `found` if there is none. -/
def lastYear (offset : Nat) (found : Option (Nat × List Char)) :
    List Char → Option (Nat × List Char)
  | [] => found
  | c :: rest =>
    let here := (yearDigits? (c :: rest)).map fun (before, digits) => (offset + before, digits)
    lastYear (offset + c.utf8Size) (here <|> found) rest

/-- The year in the program, and the offset just past it. -/
def currentYear (text : String) : Except Error (Int32 × Nat) :=
  match lastYear 0 none text.toList with
  | some (offset, digits) =>
    match Text.readInt32 (String.ofList digits) with
    | .ok year => .ok (year, offset + width digits)
    | .error flaw =>
      .error (.layout offset
        ("invalid year " ++ Text.quoted (String.ofList digits) ++ ": " ++ flaw.message))
  | none => .error (.notFound "year")

end Gradebook.Marksheet
