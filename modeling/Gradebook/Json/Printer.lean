import Gradebook.Json.Value

/-! JSON text. The compact form has no blanks; the wide form puts each element and member on a line of its
own, indented by two spaces a level, and keeps empty containers closed. -/

namespace Gradebook.Json

/-- A hexadecimal digit in lower case. -/
def hexDigit (n : Nat) : Char := if n < 10 then Char.ofNat (48 + n) else Char.ofNat (87 + n)

def escapeChar (c : Char) : List Char :=
  if c = '"' then ['\\', '"']
  else if c = '\\' then ['\\', '\\']
  else if c = '\n' then ['\\', 'n']
  else if c = '\r' then ['\\', 'r']
  else if c = '\t' then ['\\', 't']
  else if c = '\x08' then ['\\', 'b']
  else if c = '\x0c' then ['\\', 'f']
  else if c.toNat < 0x20 then ['\\', 'u', '0', '0', hexDigit (c.toNat / 16), hexDigit (c.toNat % 16)]
  else [c]

def stringText (s : String) : String :=
  String.ofList ('"' :: s.toList.flatMap escapeChar ++ ['"'])

/-- A coefficient and a power of ten. -/
def decimalText (coefficient exponent : Int) : String :=
  if coefficient = 0 ∧ exponent = 0 then "-0" else toString coefficient ++ "e" ++ toString exponent

def commaSeparated (texts : List String) : String := ",".intercalate texts

mutual

def compact : Json → String
  | .null => "null"
  | .bool value => if value then "true" else "false"
  | .int value => toString value
  | .decimal coefficient exponent => decimalText coefficient exponent
  | .str text => stringText text
  | .garbled => "\"\\ud800\""
  | .arr elements => "[" ++ commaSeparated (compactElements elements) ++ "]"
  | .obj members => "\x7b" ++ commaSeparated (compactMembers members) ++ "\x7d"

def compactElements : List Json → List String
  | [] => []
  | value :: rest => compact value :: compactElements rest

def compactMembers : List (String × Json) → List String
  | [] => []
  | (name, value) :: rest => (stringText name ++ ":" ++ compact value) :: compactMembers rest

end

/-- The start of a line at a level. -/
def newLine (level : Nat) : String := "\n" ++ String.ofList (List.replicate (2 * level) ' ')

/-- Lines of a container at a level, or the closed brackets when there are none. -/
def block (opening closing : String) (level : Nat) : List String → String
  | [] => opening ++ closing
  | lines =>
    opening ++ newLine (level + 1) ++ ("," ++ newLine (level + 1)).intercalate lines
      ++ newLine level ++ closing

mutual

/-- The wide text of a value that stands at a level. -/
def wideAt (level : Nat) : Json → String
  | .arr elements => block "[" "]" level (wideElements (level + 1) elements)
  | .obj members => block "\x7b" "\x7d" level (wideMembers (level + 1) members)
  | .null => compact .null
  | .bool value => compact (.bool value)
  | .int value => compact (.int value)
  | .decimal coefficient exponent => compact (.decimal coefficient exponent)
  | .str text => compact (.str text)
  | .garbled => compact .garbled

def wideElements (level : Nat) : List Json → List String
  | [] => []
  | value :: rest => wideAt level value :: wideElements level rest

def wideMembers (level : Nat) : List (String × Json) → List String
  | [] => []
  | (name, value) :: rest =>
    (stringText name ++ ": " ++ wideAt level value) :: wideMembers level rest

end

def wide (value : Json) : String := wideAt 0 value

end Gradebook.Json
