import Gradebook.Text.Alphanumeric
import Gradebook.Text.Pattern.Class

/-! Regular expressions, as far as it matters whether one can be used: it must be well-formed and not too
deep, it must match whole characters only, and it must not ask for the boundaries of words by the rules
of Unicode. -/

namespace Gradebook.Text.Pattern

inductive Defect where
  | malformed
  | unicodeBoundary
  deriving DecidableEq, Repr

def Defect.message : Defect → String
  | .malformed => "error building NFA"
  | .unicodeBoundary =>
    "unsupported regex feature for DFAs: cannot build DFAs for regexes with Unicode word boundaries; "
      ++ "switch to ASCII word boundaries, or heuristically enable Unicode word boundaries or use a "
      ++ "different regex engine"

def maxHeight : Nat := 250

/-- A group that is being read, and the mode behind its last flags: how many parts its current alternative
has, the height of the highest, the height of the last part if it can be repeated, and the height of the
highest alternative before. -/
structure Group where
  mode : Mode := {}
  parts : Nat := 0
  highest : Nat := 0
  last : Option Nat := none
  before : Option Nat := none
  deriving DecidableEq, Repr

namespace Group

def add (height : Nat) (g : Group) : Group :=
  { g with parts := g.parts + 1, highest := max g.highest height, last := some height }

/-- Sets the mode from here on, which is a part of its own that cannot be repeated. -/
def switch (mode : Mode) (g : Group) : Group := { g with mode, parts := g.parts + 1, last := none }

/-- Repeats the last part, if there is one. -/
def repeatLast? (g : Group) : Option Group :=
  g.last.map fun height =>
    { g with highest := max g.highest (height + 1), last := some (height + 1) }

/-- The height of the current alternative. -/
def alternative (g : Group) : Nat := rowHeight g.parts g.highest

def alternate (g : Group) : Group :=
  { mode := g.mode, before := some (max (g.before.getD 0) g.alternative) }

/-- The height of all that was read. -/
def height (g : Group) : Nat :=
  match g.before with
  | some before => max before g.alternative + 1
  | none => g.alternative

end Group

/-- Flags that are being read: those set, those unset, and whether the minus sign between them was met. -/
structure Flags where
  set : List Char := []
  unset : List Char := []
  minus : Bool := false
  deriving DecidableEq, Repr

namespace Flags

/-- Whether the flags may end here: a minus sign is followed by a flag. -/
def mayEnd (f : Flags) : Bool := !f.minus || !f.unset.isEmpty

/-- Adds a flag, each of which may stand once. -/
def add? (c : Char) (f : Flags) : Option Flags :=
  if c = '-' then if f.minus then none else some { f with minus := true }
  else if !"imsURux".toList.contains c || f.set.contains c || f.unset.contains c then none
  else if f.minus then some { f with unset := c :: f.unset }
  else some { f with set := c :: f.set }

/-- The mode that the flags make of a mode. -/
def apply (f : Flags) (m : Mode) : Mode :=
  { unicode := (m.unicode || f.set.contains 'u') && !f.unset.contains 'u'
    verbose := (m.verbose || f.set.contains 'x') && !f.unset.contains 'x' }

/-- Reads flags up to a colon or a closing parenthesis, and tells whether it was the colon. -/
def read (f : Flags) : List Char → Option (Flags × Bool × List Char)
  | [] => none
  | ':' :: rest => if f.mayEnd then some (f, true, rest) else none
  | ')' :: rest => if f.mayEnd then some (f, false, rest) else none
  | c :: rest =>
    match f.add? c with
    | some f => f.read rest
    | none => none

end Flags

def isNameChar (first : Bool) (c : Char) : Bool :=
  c = '_' || (if first then isAlphabetic c else isAlphanumeric c || ".[]".toList.contains c)

/-- Reads the name of a group and the angle that closes it. -/
def readName (cs : List Char) : Option (List Char × List Char) :=
  let name := cs.takeWhile (· ≠ '>')
  match name, cs.dropWhile (· ≠ '>') with
  | first :: others, '>' :: rest =>
    if isNameChar true first && others.all (isNameChar false) then some (name, rest) else none
  | _, _ => none

/-- What was read of a pattern: the innermost open group and those around it, the names of groups, and
whether a boundary of words by the rules of Unicode was met. -/
structure Reading where
  group : Group := {}
  outer : List Group := []
  names : List (List Char) := []
  bounded : Bool := false
  deriving DecidableEq, Repr

namespace Reading

def add (height : Nat) (r : Reading) : Reading := { r with group := r.group.add height }

/-- Opens a group that is read in a mode. -/
def openGroup (mode : Mode) (r : Reading) : Reading :=
  { r with group := { mode }, outer := r.group :: r.outer }

/-- Opens a group with a name that no other group has. -/
def openNamed (r : Reading) (cs : List Char) : Option (Reading × List Char) :=
  match readName cs with
  | some (name, rest) =>
    if r.names.contains name then none
    else some ({ r with names := name :: r.names }.openGroup r.group.mode, rest)
  | none => none

/-- Opens a group or sets flags, from the character after the parenthesis on. Looking around is not known. -/
def openParenthesis (r : Reading) (cs : List Char) : Option (Reading × List Char) :=
  match r.group.mode.skip cs with
  | '?' :: 'P' :: '<' :: rest => r.openNamed rest
  | '?' :: '<' :: rest => r.openNamed rest
  | '?' :: rest =>
    match Flags.read {} rest with
    | some (flags, true, rest) => some (r.openGroup (flags.apply r.group.mode), rest)
    | some (flags, false, rest) =>
      if flags = {} then none
      else some ({ r with group := r.group.switch (flags.apply r.group.mode) }, rest)
    | none => none
  | rest => some (r.openGroup r.group.mode, rest)

/-- Closes the innermost group. The group around it goes on in its own mode. -/
def closeParenthesis (r : Reading) : Option Reading :=
  match r.outer with
  | [] => none
  | up :: outer => some { r with group := up.add (r.group.height + 1), outer }

/-- Reads an escape outside of a class. -/
def readEscaped (r : Reading) (cs : List Char) : Option (Reading × List Char) :=
  match readMeaning r.group.mode cs with
  | some (escape, rest) =>
    let bounded := r.bounded || (escape == .boundary && r.group.mode.unicode)
    some ({ r with bounded }.add 0, rest)
  | none => none

/-- Reads one part of a pattern, from its first character on. By the rules of ASCII a dot would match bytes
that are no characters, and a brace is never closed. -/
def step (r : Reading) (c : Char) (rest : List Char) : Option (Reading × List Char) :=
  match c with
  | '(' => r.openParenthesis rest
  | ')' => r.closeParenthesis.map (·, rest)
  | '|' => some ({ r with group := r.group.alternate }, rest)
  | '[' => (readClass r.group.mode rest).map fun (height, rest) => (r.add height, rest)
  | '\\' => r.readEscaped rest
  | '.' => if r.group.mode.unicode then some (r.add 0, rest) else none
  | '\x7b' => none
  | c =>
    if "?*+".toList.contains c then
      r.group.repeatLast?.map fun group =>
        ({ r with group }, if rest.head? = some '?' then rest.tail else rest)
    else some (r.add 0, rest)

def run : Nat → Reading → List Char → Option Reading
  | 0, _, _ => none
  | fuel + 1, r, cs =>
    match r.group.mode.skip cs with
    | [] => some r
    | c :: rest =>
      match r.step c rest with
      | some (r, rest) => run fuel r rest
      | none => none

end Reading

/-- The first reason for which a pattern cannot be used. -/
def check (cs : List Char) : Except Defect Unit :=
  match Reading.run (cs.length + 1) {} cs with
  | none => .error .malformed
  | some r =>
    if !r.outer.isEmpty || decide (maxHeight < r.group.height) then .error .malformed
    else if r.bounded then .error .unicodeBoundary
    else .ok ()

end Gradebook.Text.Pattern
