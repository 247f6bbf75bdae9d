import Gradebook.Json.Value
import Gradebook.Text.Numeral

/-! Reading JSON text. The grammar is strict: no leading zeros, no trailing commas, no bare control
characters in strings, one value and blanks around it. A string may hold escaped halves of surrogate
pairs that do not meet; such a string is `garbled`, and so is an object with such a name. -/

namespace Gradebook.Json

/-- The characters that may stand between tokens. -/
def isGap (c : Char) : Bool := c = ' ' || c = '\t' || c = '\n' || c = '\r'

def skipGap (cs : List Char) : List Char := cs.dropWhile isGap

/-- The number that four hexadecimal digits spell. -/
def hexUnit? (a b c d : Char) : Option Nat := do
  let w ← Text.hexValue? a
  let x ← Text.hexValue? b
  let y ← Text.hexValue? c
  let z ← Text.hexValue? d
  pure (w * 4096 + x * 256 + y * 16 + z)

/-- What a backslash and a letter stand for. -/
def shortEscape? : Char → Option Char
  | '"' => some '"'
  | '\\' => some '\\'
  | '/' => some '/'
  | 'b' => some '\x08'
  | 'f' => some '\x0c'
  | 'n' => some '\n'
  | 'r' => some '\r'
  | 't' => some '\t'
  | _ => none

/-- A unit of a string: a character, or an escaped number that may be half of a pair. -/
inductive StringUnit where
  | char (c : Char)
  | escaped (code : Nat)

/-- Reads the units of a string up to its closing quote, and gives what follows the quote. -/
def readUnits : List Char → Option (List StringUnit × List Char)
  | [] => none
  | '"' :: rest => some ([], rest)
  | '\\' :: 'u' :: a :: b :: c :: d :: rest => do
    let code ← hexUnit? a b c d
    let (units, after) ← readUnits rest
    pure (.escaped code :: units, after)
  | '\\' :: letter :: rest => do
    let c ← shortEscape? letter
    let (units, after) ← readUnits rest
    pure (.char c :: units, after)
  | c :: rest =>
    if c.toNat < 0x20 || c = '\\' then none
    else do
      let (units, after) ← readUnits rest
      pure (.char c :: units, after)

/-- The text of a string's units, when the halves of surrogate pairs meet. -/
def unitsText? : List StringUnit → Option (List Char)
  | [] => some []
  | .char c :: rest => (unitsText? rest).map (c :: ·)
  | .escaped high :: .escaped low :: rest =>
    if 0xD800 ≤ high ∧ high < 0xDC00 then
      if 0xDC00 ≤ low ∧ low < 0xE000 then
        let code := 0x10000 + (high - 0xD800) * 0x400 + (low - 0xDC00)
        (unitsText? rest).map (Char.ofNat code :: ·)
      else none
    else if 0xDC00 ≤ high ∧ high < 0xE000 then none
    else (unitsText? (.escaped low :: rest)).map (Char.ofNat high :: ·)
  | .escaped code :: rest =>
    if 0xD800 ≤ code ∧ code < 0xE000 then none
    else (unitsText? rest).map (Char.ofNat code :: ·)

def digitsValue (digits : List Char) : Nat := digits.foldl (fun n c => n * 10 + (c.toNat - 48)) 0

/-- Digits of a whole part: a single zero, or digits that do not start with zero. -/
def readWhole : List Char → Option (List Char × List Char)
  | '0' :: rest => if rest.head?.any Char.isDigit then none else some (['0'], rest)
  | cs =>
    match cs.takeWhile Char.isDigit with
    | [] => none
    | digits => some (digits, cs.dropWhile Char.isDigit)

/-- Digits after a point, none without a point. -/
def readFraction : List Char → Option (List Char × List Char)
  | '.' :: rest =>
    match rest.takeWhile Char.isDigit with
    | [] => none
    | digits => some (digits, rest.dropWhile Char.isDigit)
  | cs => some ([], cs)

/-- An exponent, nothing without its letter. -/
def readExponent (cs : List Char) : Option (Option Int × List Char) :=
  let digitsOf (sign : Int) (rest : List Char) : Option (Option Int × List Char) :=
    match rest.takeWhile Char.isDigit with
    | [] => none
    | digits => some (some (sign * digitsValue digits), rest.dropWhile Char.isDigit)
  match cs with
  | c :: rest =>
    if c = 'e' || c = 'E' then
      match rest with
      | '+' :: digits => digitsOf 1 digits
      | '-' :: digits => digitsOf (-1) digits
      | digits => digitsOf 1 digits
    else some (none, cs)
  | [] => some (none, [])

/-- A number and what follows it. Only digits after an optional sign are an integer, and minus zero is
none. -/
def readNumber (cs : List Char) : Option (Json × List Char) := do
  let (negative, unsigned) := match cs with
    | '-' :: rest => (true, rest)
    | _ => (false, cs)
  let (whole, rest) ← readWhole unsigned
  let (fraction, rest) ← readFraction rest
  let (exponent, rest) ← readExponent rest
  let magnitude := digitsValue (whole ++ fraction)
  let coefficient : Int := if negative then -(magnitude : Int) else magnitude
  if fraction.isEmpty && exponent.isNone && !(negative && magnitude == 0) then
    pure (.int coefficient, rest)
  else
    pure (.decimal coefficient (exponent.getD 0 - fraction.length), rest)

def readWord (word : List Char) (value : Json) (cs : List Char) : Option (Json × List Char) :=
  if word.isPrefixOf cs then some (value, cs.drop word.length) else none

/-- An object with the members read, unless a name among them is garbled. -/
def ofMembers (members : List (Option String × Json)) : Json :=
  match members.mapM fun (name, value) => name.map (·, value) with
  | some named => .obj named
  | none => .garbled

mutual

/-- Reads a value; every step of the recursion takes a character, so the fuel is the text's length. -/
def readValue : Nat → List Char → Option (Json × List Char)
  | 0, _ => none
  | fuel + 1, cs =>
    match skipGap cs with
    | '"' :: rest => do
      let (units, after) ← readUnits rest
      match unitsText? units with
      | some text => pure (.str (String.ofList text), after)
      | none => pure (.garbled, after)
    | '[' :: rest =>
      match skipGap rest with
      | ']' :: after => some (.arr [], after)
      | _ => do
        let (elements, after) ← readElements fuel rest
        pure (.arr elements, after)
    | '\x7b' :: rest =>
      match skipGap rest with
      | '\x7d' :: after => some (.obj [], after)
      | _ => do
        let (members, after) ← readMembers fuel rest
        pure (ofMembers members, after)
    | 'n' :: rest => readWord ['u', 'l', 'l'] .null rest
    | 't' :: rest => readWord ['r', 'u', 'e'] (.bool true) rest
    | 'f' :: rest => readWord ['a', 'l', 's', 'e'] (.bool false) rest
    | others => readNumber others

def readElements : Nat → List Char → Option (List Json × List Char)
  | 0, _ => none
  | fuel + 1, cs => do
    let (value, rest) ← readValue fuel cs
    match skipGap rest with
    | ',' :: more => do
      let (values, after) ← readElements fuel more
      pure (value :: values, after)
    | ']' :: after => pure ([value], after)
    | _ => none

def readMembers : Nat → List Char → Option (List (Option String × Json) × List Char)
  | 0, _ => none
  | fuel + 1, cs =>
    match skipGap cs with
    | '"' :: rest => do
      let (units, rest) ← readUnits rest
      let name := (unitsText? units).map String.ofList
      match skipGap rest with
      | ':' :: rest => do
        let (value, rest) ← readValue fuel rest
        match skipGap rest with
        | ',' :: more => do
          let (members, after) ← readMembers fuel more
          pure ((name, value) :: members, after)
        | '\x7d' :: after => pure ([(name, value)], after)
        | _ => none
      | _ => none
    | _ => none

end

/-- Reads a text that is one JSON value. -/
def parse? (text : String) : Option Json :=
  let cs := text.toList
  match readValue (2 * cs.length + 2) cs with
  | some (value, rest) => if (skipGap rest).isEmpty then some value else none
  | none => none

end Gradebook.Json
