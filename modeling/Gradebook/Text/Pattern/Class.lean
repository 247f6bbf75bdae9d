import Gradebook.Text.Pattern.Escape

/-! Classes in regular expressions: sets of characters in brackets. A class lists characters, ranges and
other classes, and the signs `&&`, `--` and `~~` join what stands before and after them. -/

namespace Gradebook.Text.Pattern

/-- A class that is being read: how many members its current list has, the height of the highest, and the
height of what stands before the last sign. -/
structure OpenClass where
  members : Nat := 0
  highest : Nat := 0
  before : Option Nat := none
  deriving DecidableEq, Repr

namespace OpenClass

def add (height : Nat) (k : OpenClass) : OpenClass :=
  { k with members := k.members + 1, highest := max k.highest height }

/-- The height of all that was read. -/
def height (k : OpenClass) : Nat :=
  let list := rowHeight k.members k.highest
  match k.before with
  | some before => max before list + 1
  | none => list

/-- Goes on behind a sign. -/
def join (k : OpenClass) : OpenClass := { before := some k.height }

end OpenClass

def asciiClasses : List String :=
  ["alnum", "alpha", "ascii", "blank", "cntrl", "digit", "graph", "lower", "print", "punct", "space",
    "upper", "word", "xdigit"]

/-- Reads a class of ASCII from the character after its bracket on, and tells whether it is negated. What
only looks like one is read otherwise. -/
def readAsciiClass? : List Char → Option (Bool × List Char)
  | ':' :: cs =>
    let negated := cs.head? == some '^'
    let cs := if negated then cs.tail else cs
    let name := cs.takeWhile (· ≠ ':')
    match cs.dropWhile (· ≠ ':') with
    | ':' :: ']' :: rest =>
      if asciiClasses.contains (String.ofList name) then some (negated, rest) else none
    | _ => none
  | _ => none

/-- Reads the hyphens at the start of a class, which stand for themselves. -/
def readHyphens (m : Mode) : Nat → OpenClass → List Char → Option (OpenClass × List Char)
  | 0, _, _ => none
  | fuel + 1, k, cs =>
    match m.skip cs with
    | [] => none
    | '-' :: rest => readHyphens m fuel (k.add 0) rest
    | ']' :: rest =>
      if k.members ≠ 0 then some (k, ']' :: rest)
      else
        match m.skip rest with
        | [] => none
        | rest => some (k.add 0, rest)
    | cs => some (k, cs)

/-- Reads the start of a class, from the character after its bracket on. By the rules of ASCII a class is
not negated, for it would match bytes that are no characters. -/
def openClass (m : Mode) (cs : List Char) : Option (OpenClass × List Char) :=
  match m.skip cs with
  | '^' :: rest => if m.unicode then readHyphens m (rest.length + 1) {} rest else none
  | cs => readHyphens m (cs.length + 1) {} cs

/-- Reads a character, or an escape that stands for a character or for a class, which gives no character. -/
def readMember (m : Mode) : List Char → Option (Option Char × List Char)
  | [] => none
  | '\\' :: rest =>
    match readMeaning m rest with
    | some (.char c, rest) =>
      if m.unicode || decide (c.toNat < 128) then some (some c, rest) else none
    | some (.byte value, rest) => some (some (Char.ofNat value), rest)
    | some (.kind _, rest) => some (none, rest)
    | some (.property, rest) => some (none, rest)
    | _ => none
  | c :: rest => if m.unicode || decide (c.toNat < 128) then some (some c, rest) else none

/-- The first character after a hyphen that counts, as far as it decides what the hyphen means. -/
def afterHyphen (m : Mode) (cs : List Char) : Option Char :=
  if !m.verbose then cs.head?
  else
    match cs.dropWhile isBlank with
    | '#' :: rest => (rest.dropWhile isBlank).head?
    | other => other.head?

/-- Reads a member or a range, whose ends are characters in order. -/
def readRange (m : Mode) (cs : List Char) : Option (List Char) := do
  let (first, rest) ← readMember m cs
  match m.skip rest with
  | [] => none
  | '-' :: rest =>
    if afterHyphen m rest = some ']' ∨ afterHyphen m rest = some '-' then pure ('-' :: rest)
    else do
      let (last, rest) ← readMember m (m.skip rest)
      match first, last with
      | some low, some high => if low ≤ high then pure rest else none
      | _, _ => none
  | rest => pure rest

/-- Reads the innermost open class and those around it to the end of the outermost, and gives the height of
that. -/
def readMembers (m : Mode) : Nat → OpenClass → List OpenClass → List Char → Option (Nat × List Char)
  | 0, _, _, _ => none
  | fuel + 1, k, outer, cs =>
    match m.skip cs with
    | [] => none
    | '[' :: rest =>
      match readAsciiClass? rest with
      | some (negated, rest) =>
        if negated && !m.unicode then none else readMembers m fuel (k.add 0) outer rest
      | none =>
        match openClass m rest with
        | some (inner, rest) => readMembers m fuel inner (k :: outer) rest
        | none => none
    | ']' :: rest =>
      match outer with
      | [] => some (k.height + 1, rest)
      | up :: more => readMembers m fuel (up.add (k.height + 1)) more rest
    | '&' :: '&' :: rest => readMembers m fuel k.join outer rest
    | '-' :: '-' :: rest => readMembers m fuel k.join outer rest
    | '~' :: '~' :: rest => readMembers m fuel k.join outer rest
    | cs =>
      match readRange m cs with
      | some rest => readMembers m fuel (k.add 0) outer rest
      | none => none

/-- Reads a class from the character after its bracket on, and gives its height. -/
def readClass (m : Mode) (cs : List Char) : Option (Nat × List Char) :=
  match openClass m cs with
  | some (k, rest) => readMembers m (rest.length + 1) k [] rest
  | none => none

end Gradebook.Text.Pattern
