/-! Reading integers. A numeral is an optional sign and ASCII digits; the characters are taken from left to
right, and the first that is no digit or takes the value out of range decides the flaw. -/

namespace Gradebook.Text

/-- Why a text is no integer of the wanted range. -/
inductive NumeralFlaw where
  | empty
  | invalidDigit
  | tooLarge
  | tooSmall
  deriving DecidableEq, Repr

def NumeralFlaw.message : NumeralFlaw → String
  | .empty => "cannot parse integer from empty string"
  | .invalidDigit => "invalid digit found in string"
  | .tooLarge => "number too large to fit in target type"
  | .tooSmall => "number too small to fit in target type"

def digitValue (c : Char) : Nat := c.toNat - '0'.toNat

def hexValue? (c : Char) : Option Nat :=
  if c.isDigit then some (digitValue c)
  else if 'a' ≤ c ∧ c ≤ 'f' then some (c.toNat - 'a'.toNat + 10)
  else if 'A' ≤ c ∧ c ≤ 'F' then some (c.toNat - 'A'.toNat + 10)
  else none

/-- The number that digits spell after the digits of `value`, as long as it stays within `limit`;
`excess` is the flaw of a number that does not. -/
def readDigits (limit : Nat) (excess : NumeralFlaw) (value : Nat) : List Char → Except NumeralFlaw Nat
  | [] => .ok value
  | c :: rest =>
    if c.isDigit then
      let next := value * 10 + digitValue c
      if limit < next then .error excess else readDigits limit excess next rest
    else .error .invalidDigit

/-- Digits after a sign: at least one. -/
def readSigned (limit : Nat) (excess : NumeralFlaw) : List Char → Except NumeralFlaw Nat
  | [] => .error .invalidDigit
  | digits => readDigits limit excess 0 digits

/-- Reads an integer between `low` and `high`. A minus sign is only known where `low` is negative. -/
def readInteger (low high : Int) : List Char → Except NumeralFlaw Int
  | [] => .error .empty
  | '+' :: digits => (readSigned high.toNat .tooLarge digits).map Int.ofNat
  | '-' :: digits =>
    if low < 0 then (readSigned (-low).toNat .tooSmall digits).map fun n => -(n : Int)
    else .error .invalidDigit
  | digits => (readDigits high.toNat .tooLarge 0 digits).map Int.ofNat

def readInt32 (s : String) : Except NumeralFlaw Int32 :=
  (readInteger Int32.minValue.toInt Int32.maxValue.toInt s.toList).map Int32.ofInt

def readInt64 (s : String) : Except NumeralFlaw Int64 :=
  (readInteger Int64.minValue.toInt Int64.maxValue.toInt s.toList).map Int64.ofInt

def readUInt64 (s : String) : Except NumeralFlaw UInt64 :=
  (readInteger 0 (UInt64.size - 1) s.toList).map fun n => UInt64.ofNat n.toNat

end Gradebook.Text
