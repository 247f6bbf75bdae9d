import Gradebook.Text.Blank
import Gradebook.Text.Numeral

/-! Escapes in regular expressions: a backslash and what it changes the meaning of. Braces that would be
closed are never met, for a pattern is read out of a place that a closing brace ends. -/

namespace Gradebook.Text.Pattern

/-- How a pattern is read: by the rules of Unicode or by those of ASCII, and verbosely, which means that
blanks and comments in it do not count. -/
structure Mode where
  unicode : Bool := true
  verbose : Bool := false
  deriving DecidableEq, Repr

/-- The text after the blanks and comments at its start. A comment goes from a number sign to the end of
the line. -/
def skipComments (inComment : Bool) : List Char → List Char
  | [] => []
  | c :: rest =>
    if inComment then skipComments (c ≠ '\n') rest
    else if c = '#' then skipComments true rest
    else if isBlank c then skipComments false rest
    else c :: rest

/-- The text after what does not count at its start. -/
def Mode.skip (m : Mode) (cs : List Char) : List Char := if m.verbose then skipComments false cs else cs

inductive Escape where
  | char (c : Char)
  | byte (value : Nat)
  | kind (negated : Bool)
  | property
  | edge
  | boundary
  deriving DecidableEq, Repr

/-- The number that so many hexadecimal digits spell after the digits of `value`. -/
def readHex (m : Mode) : Nat → Nat → List Char → Option (Nat × List Char)
  | 0, value, cs => some (value, cs)
  | count + 1, value, cs =>
    match m.skip cs with
    | [] => none
    | c :: rest =>
      match hexValue? c with
      | some digit => readHex m count (value * 16 + digit) rest
      | none => none

def charOf? (code : Nat) : Option Char := if code.isValidChar then some (Char.ofNat code) else none

/-- The ASCII characters that mean something in a pattern. -/
def isMeta (c : Char) : Bool := "\\.+*?()|[]\x7b\x7d^$#&-~".toList.contains c

/-- Whether an escaped character stands for itself: every one of ASCII but letters, digits and angles. -/
def isEscapable (c : Char) : Bool :=
  isMeta c || (decide (c.toNat < 128) && !c.isAlphanum && c ≠ '<' && c ≠ '>')

/-- The characters that have a letter of their own. -/
def letterEscape? : Char → Option Char
  | 'a' => some '\x07'
  | 'f' => some '\x0c'
  | 't' => some '\t'
  | 'n' => some '\n'
  | 'r' => some '\r'
  | 'v' => some '\x0b'
  | _ => none

/-- Reads a property: one letter for a general category. -/
def readProperty (m : Mode) (cs : List Char) : Option (Escape × List Char) :=
  match m.skip cs with
  | c :: rest => if "clmnpsz".toList.contains c.toLower then some (.property, rest) else none
  | [] => none

/-- Reads an escape from the character after the backslash on. -/
def readEscape (m : Mode) : List Char → Option (Escape × List Char)
  | [] => none
  | c :: rest =>
    if c = 'x' then (readHex m 2 0 rest).map fun (code, rest) => (.byte code, rest)
    else if c = 'u' ∨ c = 'U' then do
      let (code, rest) ← readHex m (if c = 'u' then 4 else 8) 0 rest
      let letter ← charOf? code
      pure (.char letter, rest)
    else if c = 'p' ∨ c = 'P' then readProperty m rest
    else if "dsw".toList.contains c then some (.kind false, rest)
    else if "DSW".toList.contains c then some (.kind true, rest)
    else if isEscapable c then some (.char c, rest)
    else if c = 'A' ∨ c = 'z' then some (.edge, rest)
    else if c = 'b' then if rest.head? = some '\x7b' then none else some (.boundary, rest)
    else if "B<>".toList.contains c then some (.boundary, rest)
    else (letterEscape? c).map fun letter => (.char letter, rest)

/-- Whether an escape has a meaning. By the rules of ASCII no byte above 127 can be matched, and Unicode
properties are not known. -/
def Mode.allows (m : Mode) : Escape → Bool
  | .char _ => true
  | .byte value => m.unicode || decide (value < 128)
  | .kind negated => m.unicode || !negated
  | .property => m.unicode
  | .edge => true
  | .boundary => true

/-- Reads an escape that has a meaning. -/
def readMeaning (m : Mode) (cs : List Char) : Option (Escape × List Char) :=
  match readEscape m cs with
  | some (escape, rest) => if m.allows escape then some (escape, rest) else none
  | none => none

/-- The height of a row of parts: a row of several is one level above the highest of them. -/
def rowHeight (count highest : Nat) : Nat := if count ≤ 1 then highest else highest + 1

end Gradebook.Text.Pattern
