import Gradebook.Text.Alphanumeric
import Gradebook.Text.Blank

/-! Environment files. A file adds variables to an environment, one assignment `NAME=value` a line, and
never changes a variable that is set. Values may be quoted, and a value in double quotes or in none may
name variables after a dollar sign. Reading stops at the first line that is no assignment; what stands
before it counts. -/

namespace Gradebook.Command.EnvFile

/-- Where a character stands as to quotation marks and comments. -/
inductive Place where
  | plain
  | blank
  | escaped
  | strong
  | strongEscaped
  | weak
  | weakEscaped
  | comment
  deriving DecidableEq, Repr

/-- A character that starts something outside of quotation marks. -/
def openedBy (c : Char) : Place :=
  if c = '\\' then .escaped else if c = '"' then .weak else if c = '\'' then .strong else .plain

/-- The place after a character. Only a number sign right after the first of some blanks starts a
comment. -/
def Place.after (c : Char) : Place → Place
  | .plain => if Text.isBlank c && c != '\n' && c != '\r' then .blank else openedBy c
  | .blank => if c = '#' then .comment else openedBy c
  | .escaped => .plain
  | .strong => if c = '\\' then .strongEscaped else if c = '\'' then .plain else .strong
  | .strongEscaped => .strong
  | .weak => if c = '\\' then .weakEscaped else if c = '"' then .plain else .weak
  | .weakEscaped => .weak
  | .comment => .comment

def Place.isClosed (place : Place) : Bool := place == .plain || place == .comment

/-- The place in which a line starts: a comment if a number sign comes first. -/
def firstPlace (cs : List Char) : Place :=
  if (cs.dropWhile fun c => Text.isBlank c && c != '\n').head? = some '#' then .comment else .plain

/-- The lines of a file without their comments, the characters of the current one being read backwards. A
line goes on while a quotation is open, and one that the file leaves open is lost. -/
def linesFrom (place : Place) (read : List Char) : List Char → List (List Char)
  | [] => if place.isClosed && !read.isEmpty then [read.reverse] else []
  | c :: rest =>
    let next := place.after c
    if c = '\n' && next.isClosed then read.reverse :: linesFrom (firstPlace rest) [] rest
    else linesFrom next (if next = .comment then read else c :: read) rest

def lines (file : List Char) : List (List Char) := linesFrom (firstPlace file) [] file

/-- How the characters of a value are being read. Outside of quotation marks a blank ends the value. -/
inductive Mode where
  | bare
  | weak
  | strong
  | escaped (back : Mode)
  | naming (back : Mode) (name : List Char)
  | bracing (back : Mode) (name : List Char)
  | ended

/-- The value of the variable whose name was read backwards, nothing if there is none. -/
def valueOf (env : String → Option String) (name : List Char) : List Char :=
  ((env (String.ofList name.reverse)).getD "").toList

def unescape? (c : Char) : Option Char :=
  if c = 'n' then some '\n' else if ['\\', '\'', '"', '$', ' '].contains c then some c else none

/-- Reads one character of a value: the text that it adds and the mode after it. -/
def Mode.read (env : String → Option String) (c : Char) : Mode → Option (List Char × Mode)
  | .bare =>
    if c = '$' then some ([], .naming .bare [])
    else if c = '\'' then some ([], .strong)
    else if c = '"' then some ([], .weak)
    else if c = '\\' then some ([], .escaped .bare)
    else if c = ' ' ∨ c = '\t' then some ([], .ended)
    else some ([c], .bare)
  | .weak =>
    if c = '$' then some ([], .naming .weak [])
    else if c = '"' then some ([], .bare)
    else if c = '\\' then some ([], .escaped .weak)
    else some ([c], .weak)
  | .strong => if c = '\'' then some ([], .bare) else some ([c], .strong)
  | .escaped back => (unescape? c).map fun c => ([c], back)
  | .naming back name =>
    if Text.isAlphanumeric c then some ([], .naming back (c :: name))
    else if c = '\x7b' ∧ name = [] then some ([], .bracing back [])
    else if c = '$' then some (valueOf env name, .naming back [])
    else some (valueOf env name ++ [c], back)
  | .bracing back name =>
    if c = '\x7d' then some (valueOf env name, back) else some ([], .bracing back (c :: name))
  | .ended => if c = ' ' ∨ c = '\t' then some ([], .ended) else none

/-- Whether a mode stands inside double quotes. -/
def Mode.isWeak : Mode → Bool
  | .weak => true
  | .escaped back => back.isWeak
  | .naming back _ => back.isWeak
  | .bracing back _ => back.isWeak
  | .bare => false
  | .strong => false
  | .ended => false

/-- What the end of a value adds, unless something is left open. -/
def Mode.finish (env : String → Option String) (mode : Mode) : Option (List Char) :=
  if mode.isWeak then none
  else
    match mode with
    | .strong => none
    | .bracing _ _ => none
    | .naming _ name => some (valueOf env name)
    | .weak => none
    | .bare => some []
    | .escaped _ => some []
    | .ended => some []

/-- Reads the rest of a value. A number sign after a blank starts a comment. -/
def readValue (env : String → Option String) (mode : Mode) : List Char → Option (List Char)
  | [] => mode.finish env
  | c :: rest =>
    match mode, c with
    | .ended, '#' => some []
    | _, _ =>
      match mode.read env c with
      | some (added, next) => (readValue env next rest).map (added ++ ·)
      | none => none

/-- A name at the start of a line, and what follows it. -/
def readName : List Char → Option (List Char × List Char)
  | [] => none
  | c :: rest =>
    if c.isAlpha || c = '_' then
      let belongs (c : Char) : Bool := c.isAlphanum || c = '_' || c = '.'
      some (c :: rest.takeWhile belongs, rest.dropWhile belongs)
    else none

/-- What follows an equals sign, past blanks before and after it. -/
def afterEquals (cs : List Char) : Option (List Char) :=
  match Text.trimLeft cs with
  | '=' :: rest => some (Text.trimLeft rest)
  | _ => none

/-- The name that a line assigns to, and its value as written. The word `export` may stand before the
name, and is a name of its own before an equals sign. -/
def readTarget (line : List Char) : Option (List Char × List Char) := do
  let (name, rest) ← readName line
  match afterEquals rest with
  | some value => some (name, value)
  | none =>
    if name = "export".toList then do
      let (name, rest) ← readName (Text.trimLeft rest)
      let value ← afterEquals rest
      some (name, value)
    else none

def readAssignment (env : String → Option String) (line : List Char) : Option (String × String) := do
  let (name, written) ← readTarget line
  let value ← if written.head? = some '#' then some [] else readValue env .bare written
  some (String.ofList name, String.ofList value)

/-- Adds the assignments of some lines to the variables. -/
def addLines (known : List (String × String)) : List (List Char) → List (String × String)
  | [] => known
  | line :: rest =>
    match Text.trimChars line with
    | [] => addLines known rest
    | '#' :: _ => addLines known rest
    | line =>
      match readAssignment (fun name => known.lookup name) line with
      | none => known
      | some (name, value) =>
        match known.lookup name with
        | some _ => addLines known rest
        | none => addLines (known ++ [(name, value)]) rest

/-- Adds the assignments of a file to the variables that are set. A byte order mark before them is
skipped. -/
def extend (file : String) (known : List (String × String)) : List (String × String) :=
  addLines known (lines (match file.toList with
    | '\uFEFF' :: rest => rest
    | cs => cs))

end Gradebook.Command.EnvFile
